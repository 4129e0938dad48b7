import Karel.Proofs.Language.Layout
import Mathlib.Data.List.TakeWhile

/-!
# Programs that are written out

A program has items: the procedure to run, and its procedures. `listing` writes items out, each
procedure as a block whose statements are shown as they are in a trace. In a program that was read
from an ASCII text, all names are `IsName` and all items `Item.Legal`, so each line that is written
has the words of its item. Items that describe a program are read one after the other as this
program, in whatever order they stand; `read_listing` puts this together.
-/

namespace Karel

open Text Karel.Language

variable {σ ε : Type} {vocabulary : Vocabulary σ ε}

namespace Language

/-- A word of ASCII characters in which no comment starts. -/
structure IsToken (word : List Char) : Prop where
  nonempty : word ≠ []
  each : ∀ character ∈ word,
    character.toNat < 128 ∧ isBlank character = false ∧ character ≠ '#'

/-- Such a word in any case of its letters, and the name that it is read as. -/
structure Spells (shown : List Char) (name : String) : Prop where
  isToken : IsToken shown
  lower : shown.map Char.toLower = name.toList

/-- A name that is read as itself. -/
def IsName (name : String) : Prop := Spells name.toList name

/-- A line has the words as they are shown, with one space between them. -/
def Shows (line : String) (words : List String) : Prop :=
  ∃ shown, line.toList = [' '].intercalate shown ∧ List.Forall₂ Spells shown words

end Language

/-- A statement that can be read again in a procedure: it has names, can stand in a block, and does
not start with a keyword. -/
structure Statement.Legal (vocabulary : Vocabulary σ ε) (statement : Statement) : Prop where
  named : ∀ word ∈ statement.words, IsName word
  shaped : statement.Shaped vocabulary
  free : ∀ keyword ∈ statement.words.head?, keyword ≠ "define" ∧ keyword ≠ "run"

namespace Language

/-- An item that can be read again. A block has a statement, and it can be ended. -/
def Item.Legal (vocabulary : Vocabulary σ ε) : Item → Prop
  | run name => IsName name
  | block name body => IsName name ∧ body ≠ [] ∧ vocabulary.isCondition "end" = false ∧
      ∀ statement ∈ body, statement.Legal vocabulary

/-- The lines that an item is written as. -/
def Item.textLines : Item → List String
  | run name => ["RUN " ++ name]
  | block name body => ("DEFINE " ++ name) :: (body.map Statement.text ++ ["END"])

/-- The text of items, one after the other. -/
def listing (items : List Item) : String :=
  String.join ((items.flatMap Item.textLines).map (· ++ "\n"))

/-- The items of a program. -/
def itemsOf (program : Program) : List Item :=
  (program.main.map Item.run).toList ++
    program.procedures.toList.map fun entry => .block entry.1 entry.2

/-! ## Words -/

section Words

variable {word line : List Char} {name text : String} {names : List String}

theorem isToken_of_all (nonempty : word.isEmpty = false)
    (each : word.all (fun character => decide (character.toNat < 128 ∧
      isBlank character = false ∧ character ≠ '#')) = true) : IsToken word :=
  ⟨List.isEmpty_eq_false_iff.mp nonempty, by simpa using each⟩

theorem isToken_map_toLower : IsToken (word.map Char.toLower) ↔ IsToken word := by
  have same : ∀ character : Char, character.toLower ≠ '#' ↔ character ≠ '#' := fun character =>
    not_congr (toLower_eq_iff_of_toNat (by decide) (by decide))
  constructor
  · rintro ⟨nonempty, each⟩
    simp only [List.forall_mem_map, isBlank_toLower, toNat_toLower_lt_iff, same] at each
    exact ⟨mt List.map_eq_nil_iff.mpr nonempty, each⟩
  · rintro ⟨nonempty, each⟩
    refine ⟨mt List.map_eq_nil_iff.mp nonempty, ?_⟩
    simpa only [List.forall_mem_map, isBlank_toLower, toNat_toLower_lt_iff, same] using each

theorem IsToken.isWord (isToken : IsToken word) : IsWord word :=
  ⟨isToken.nonempty, fun character member => (isToken.each character member).2.1⟩

/-- The words of an ASCII line are names. -/
theorem isName_of_mem_lineWords (ascii : ∀ character ∈ line, character.toNat < 128)
    (member : name ∈ lineWords line) : IsName name := by
  have code : ∀ character ∈ codeOf line, character.toNat < 128 := fun character inside =>
    ascii character (List.takeWhile_subset _ inside)
  have plain : HasPlainCode line := fun character inside => .inl (code character inside)
  rw [plain.lineWords_eq, List.map_map] at member
  obtain ⟨word, inLine, rfl⟩ := List.mem_map.mp member
  have isWord := isWord_of_mem_words inLine
  have isToken : IsToken word := by
    refine ⟨isWord.nonempty, fun character inside => ?_⟩
    have inCode := mem_of_mem_words inLine character inside
    have noComment := List.mem_takeWhile_imp inCode
    exact ⟨code character inCode, isWord.solid character inside, bne_iff_ne.mp noComment⟩
  rw [Function.comp_apply, IsName, String.toList_ofList]
  refine ⟨isToken_map_toLower.mpr isToken, ?_⟩
  rw [List.map_map, String.toList_ofList]
  exact List.map_congr_left fun character _ => toLower_toLower character

/-- A name is spelled by its upper case. -/
theorem IsName.upper (isName : IsName name) : Spells (Case.upperString name).toList name := by
  have ascii : ∀ character ∈ name.toList, character.toNat < 128 := fun character member =>
    (isName.isToken.each character member).1
  have lower : (Case.upperString name).toList.map Char.toLower = name.toList := by
    rw [Case.upperString, String.toList_ofList, Case.upper_of_ascii ascii, List.map_map]
    refine (List.map_congr_left fun character _ => ?_).trans isName.lower
    exact toLower_toUpper character
  refine ⟨isToken_map_toLower.mp ?_, lower⟩
  rw [lower, ← isName.lower, isToken_map_toLower]
  exact isName.isToken

theorem isToken_of_spells {shown : List (List Char)} (spelled : List.Forall₂ Spells shown names) :
    ∀ word ∈ shown, IsToken word :=
  ((List.forall₂_and_left _ _).mp (spelled.imp fun _ _ spells => ⟨spells.isToken, spells⟩)).1

theorem map_ofList_of_spells {shown : List (List Char)}
    (spelled : List.Forall₂ Spells shown names) :
    (shown.map (·.map Char.toLower)).map String.ofList = names := by
  rw [List.map_map, ← List.forall₂_eq_eq_eq, List.forall₂_map_left_iff]
  refine spelled.imp fun word name spells => ?_
  rw [Function.comp_apply, spells.lower, String.ofList_toList]

namespace Shows

theorem not_mem (shows : Shows text names) : '\n' ∉ text.toList := by
  obtain ⟨shown, written, spelled⟩ := shows
  rw [written]
  exact not_mem_intercalate fun word member => (isToken_of_spells spelled word member).isWord

/-- A line that shows words is read as them. -/
theorem lineWords_eq (shows : Shows text names) : lineWords text.toList = names := by
  obtain ⟨shown, written, spelled⟩ := shows
  have tokens := isToken_of_spells spelled
  have noComment : ∀ character ∈ text.toList, (character != '#') = true := by
    rw [written]
    refine forall_mem_intercalate (by decide) fun word member character inside => ?_
    exact bne_iff_ne.mpr ((tokens word member).each character inside).2.2
  have code : codeOf text.toList = text.toList := List.takeWhile_eq_self_iff.mpr noComment
  have plain : HasPlainCode text.toList := by
    rw [HasPlainCode, code, written]
    refine forall_mem_intercalate (.inl (by decide)) fun word member character inside => ?_
    exact .inl ((tokens word member).each character inside).1
  rw [plain.lineWords_eq, code, written,
    words_intercalate fun word member => (tokens word member).isWord]
  exact map_ofList_of_spells spelled

end Shows

end Words

/-! ## Lines -/

section Lines

variable {items : List Item}

/-- A statement is shown as its words. -/
theorem shows_text {statement : Statement} (named : ∀ word ∈ statement.words, IsName word) :
    Shows statement.text statement.words := by
  refine ⟨statement.words.map fun word => (Case.upperString word).toList, ?_, ?_⟩
  · cases statement with
    | invoke name => simp [Statement.text, Statement.words]
    | choose condition yes no => simp [Statement.text, Statement.words]
  · rw [List.forall₂_map_left_iff, List.forall₂_same]
    exact fun word member => (named word member).upper

theorem shows_keyword {text keyword name : String} {shown : List Char}
    (spelled : Spells shown keyword) (isName : IsName name)
    (written : text.toList = shown ++ ' ' :: name.toList) : Shows text [keyword, name] := by
  refine ⟨[shown, name.toList], ?_, .cons spelled (.cons isName .nil)⟩
  rw [written, List.intercalate_cons_cons, List.append_assoc]
  simp

theorem spells_run : Spells ['R', 'U', 'N'] "run" :=
  ⟨isToken_of_all rfl (by decide), by decide +kernel⟩

theorem spells_define : Spells ['D', 'E', 'F', 'I', 'N', 'E'] "define" :=
  ⟨isToken_of_all rfl (by decide), by decide +kernel⟩

theorem spells_end : Spells ['E', 'N', 'D'] "end" :=
  ⟨isToken_of_all rfl (by decide), by decide +kernel⟩

/-- The lines of an item show its words. -/
theorem Item.Legal.shows {item : Item} (legal : item.Legal vocabulary) :
    List.Forall₂ Shows item.textLines item.lines := by
  cases item with
  | run name => exact .cons (shows_keyword spells_run legal (by simp)) .nil
  | block name body =>
      obtain ⟨isName, -, -, statements⟩ := legal
      have opens : Shows ("DEFINE " ++ name) ["define", name] :=
        shows_keyword spells_define isName (by simp)
      have shown : List.Forall₂ Shows (body.map Statement.text) (body.map Statement.words) := by
        rw [List.forall₂_map_left_iff, List.forall₂_map_right_iff, List.forall₂_same]
        exact fun statement member => shows_text (statements statement member).named
      have ends : Shows "END" ["end"] := ⟨[_], by simp, .cons spells_end .nil⟩
      exact .cons opens (List.rel_append shown (.cons ends .nil))

theorem shows_listing (legal : ∀ item ∈ items, item.Legal vocabulary) :
    List.Forall₂ Shows (items.flatMap Item.textLines) (items.flatMap Item.lines) := by
  induction items with
  | nil => exact .nil
  | cons item rest inductionHypothesis =>
      obtain ⟨first, others⟩ := List.forall_mem_cons.mp legal
      exact List.rel_append first.shows (inductionHypothesis others)

/-- The lines of a listing have the words of its items, and the last line is empty. -/
theorem wordsOf_listing (legal : ∀ item ∈ items, item.Legal vocabulary) :
    wordsOf (listing items) = items.flatMap Item.lines ++ [[]] := by
  have shows := shows_listing legal
  have written : (listing items).toList =
      ((items.flatMap Item.textLines).map String.toList).flatMap (· ++ ['\n']) := by
    simp [listing, List.flatMap_map]
  have oneLine : ∀ text ∈ items.flatMap Item.textLines, '\n' ∉ text.toList :=
    ((List.forall₂_and_left _ _).mp (shows.imp fun _ _ shows => ⟨shows.not_mem, shows⟩)).1
  have read : (items.flatMap Item.textLines).map (fun text => lineWords text.toList) =
      items.flatMap Item.lines := by
    rw [← List.forall₂_eq_eq_eq, List.forall₂_map_left_iff]
    exact shows.imp fun _ _ shows => shows.lineWords_eq
  rw [wordsOf, written, lines_flatMap (List.forall_mem_map.mpr oneLine), List.map_append,
    List.map_map]
  exact congrArg₂ _ read rfl

end Lines

/-! ## Items of programs that were read -/

section Legality

variable {draft next : Draft} {line : Nat} {words : List String} {text : List (List String)}

/-- What was read so far can be read again. -/
structure Draft.Legal (vocabulary : Vocabulary σ ε) (draft : Draft) : Prop where
  main : ∀ {name : String}, draft.program.main = some name → IsName name
  closed : ∀ {name : String} {body : List Statement}, draft.program.procedures[name]? = some body →
    (Item.block name body).Legal vocabulary
  opened : ∀ {name : String} {body : List Statement}, draft.open? = some (name, body) →
    IsName name ∧ ∀ statement ∈ body, statement.Legal vocabulary

theorem Draft.legal_empty : ({} : Draft).Legal vocabulary where
  main found := by simp [Program.empty] at found
  closed found := by simp [Program.empty] at found
  opened found := by simp at found

theorem Draft.Legal.push (legal : draft.Legal vocabulary) {name : String} {body : List Statement}
    (inside : draft.open? = some (name, body)) {statement : Statement}
    (fits : statement.Legal vocabulary) (references : List Reference) :
    (draft.push name body statement references).Legal vocabulary := by
  obtain ⟨isName, statements⟩ := legal.opened inside
  refine ⟨legal.main, legal.closed, fun {other otherBody} found => ?_⟩
  cases found
  refine ⟨isName, List.forall_mem_append.mpr ⟨statements, ?_⟩⟩
  exact List.forall_mem_singleton.mpr fits

/-- A line of names keeps what was read so far legal. -/
theorem Draft.Legal.reads (legal : draft.Legal vocabulary)
    (reads : draft.Reads vocabulary line words next) (names : ∀ word ∈ words, IsName word) :
    next.Legal vocabulary := by
  cases reads with
  | blank => exact legal
  | opens outside fresh =>
      refine ⟨legal.main, legal.closed, fun {name body} found => ?_⟩
      cases found
      exact ⟨names _ (by simp), by simp⟩
  | starts outside first =>
      refine ⟨fun {name} found => ?_, legal.closed, legal.opened⟩
      cases found
      exact names _ (by simp)
  | @closes name body inside filled plain =>
      obtain ⟨isName, statements⟩ := legal.opened inside
      refine ⟨legal.main, fun {other otherBody} found => ?_, nofun⟩
      rw [Std.ExtTreeMap.getElem?_insert] at found
      split at found
      next same =>
        cases Std.LawfulEqCmp.compare_eq_iff_eq.mp same
        cases found
        exact ⟨isName, filled, plain, statements⟩
      next => exact legal.closed found
  | @chooses name body condition yes no inside free known =>
      have fits : (Statement.choose condition yes no).Legal vocabulary :=
        ⟨names, known, by simpa [Statement.words] using free⟩
      exact legal.push inside fits _
  | @invokes name body invoked inside free plain =>
      have fits : (Statement.invoke invoked).Legal vocabulary :=
        ⟨names, ⟨by simp [free], plain⟩, by simp [Statement.words, free]⟩
      exact legal.push inside fits _

theorem Draft.Legal.readsAll (legal : draft.Legal vocabulary)
    (reads : Draft.ReadsAll vocabulary line text draft next)
    (names : ∀ words ∈ text, ∀ word ∈ words, IsName word) : next.Legal vocabulary := by
  induction reads with
  | nil => exact legal
  | cons first _ inductionHypothesis =>
      obtain ⟨own, others⟩ := List.forall_mem_cons.mp names
      exact inductionHypothesis (legal.reads first own) others

variable {program : Program} {items : List Item}

/-- The items of a program describe it. -/
theorem describes_itemsOf (program : Program) : Describes (itemsOf program) program where
  main name := by simp [itemsOf, eq_comm]
  procedures name body := by
    simp [itemsOf, Std.ExtTreeMap.mem_toList_iff_getElem?_eq_some]

theorem mains_itemsOf (program : Program) : mains (itemsOf program) = program.main.toList := by
  cases named : program.main with
  | none => simp [mains, itemsOf, named, Item.main?]
  | some name => simp [mains, itemsOf, named, Item.main?]

theorem blockNames_itemsOf (program : Program) :
    blockNames (itemsOf program) = program.procedures.keys := by
  have runs : (program.main.map Item.run).toList.filterMap Item.name? = [] := by
    cases program.main <;> rfl
  rw [blockNames, itemsOf, List.filterMap_append, runs, List.nil_append, List.filterMap_map,
    ← Std.ExtTreeMap.map_fst_toList_eq_keys]
  exact congrFun List.filterMap_eq_map _

/-- What was read from an ASCII text has items that can be read again. -/
theorem legal_of_read {source : String}
    (ascii : ∀ character ∈ source.toList, character.toNat < 128)
    (accepted : read vocabulary source = .ok program) :
    ∀ item ∈ itemsOf program, item.Legal vocabulary := by
  obtain ⟨draft, reads, -, rfl, -⟩ := read_eq_ok_iff.mp accepted
  have names : ∀ words ∈ (lines source.toList).map lineWords, ∀ word ∈ words, IsName word := by
    rw [List.forall_mem_map]
    intro line member word inside
    exact isName_of_mem_lineWords
      (fun character inLine => ascii character (mem_of_mem_lines member character inLine)) inside
  have legal := Draft.legal_empty.readsAll reads names
  have describes := describes_itemsOf draft.program
  intro item member
  cases item with
  | run name => exact legal.main ((describes.main name).mpr member)
  | block name body => exact legal.closed ((describes.procedures name body).mpr member)

end Legality

/-! ## Reading items again -/

section Reading

variable {draft middle next : Draft} {line : Nat} {text others : List (List String)}
  {program : Program} {items : List Item} {references : List Reference}

theorem Item.lines_ne_nil (item : Item) : ∀ words ∈ item.lines, words ≠ [] := by
  have statements : ∀ statement : Statement, statement.words ≠ [] := by
    intro statement
    cases statement <;> exact List.cons_ne_nil _ _
  cases item with
  | run name => simp [lines]
  | block name body =>
      rw [lines, blockLines, List.forall_mem_append, List.forall_mem_cons, List.forall_mem_map]
      exact ⟨⟨List.cons_ne_nil _ _, fun statement _ => statements statement⟩, by simp⟩

theorem Draft.ReadsAll.append (first : Draft.ReadsAll vocabulary line text draft middle)
    (second : Draft.ReadsAll vocabulary (line + text.length) others middle next) :
    Draft.ReadsAll vocabulary line (text ++ others) draft next := by
  induction first with
  | nil => exact second
  | cons head _ inductionHypothesis =>
      rw [List.length_cons, Nat.add_comm _ 1, ← Nat.add_assoc] at second
      exact .cons head (inductionHypothesis second)

/-- A legal statement is read in the procedure that is open. -/
theorem Draft.reads_statement {statement : Statement} (legal : statement.Legal vocabulary)
    {name : String} {body : List Statement} (inside : draft.open? = some (name, body)) :
    draft.Reads vocabulary line statement.words
      (draft.push name body statement (calls vocabulary line statement.targets)) := by
  obtain ⟨-, shaped, free⟩ := legal
  cases statement with
  | invoke invoked => exact .invokes inside (by simpa using shaped.1) shaped.2
  | choose condition yes no => exact .chooses inside (free condition rfl) shaped

/-- Legal statements are read one after the other. -/
theorem exists_readsAll_body {body : List Statement}
    (legal : ∀ statement ∈ body, statement.Legal vocabulary) {name : String}
    (before : List Statement) :
    ∃ added, Draft.ReadsAll vocabulary line (body.map Statement.words)
      ⟨program, some (name, before), references⟩ ⟨program, some (name, before ++ body), added⟩ := by
  induction body generalizing line before references with
  | nil =>
      rw [List.append_nil]
      exact ⟨references, .nil⟩
  | cons statement rest inductionHypothesis =>
      obtain ⟨first, others⟩ := List.forall_mem_cons.mp legal
      obtain ⟨added, reads⟩ := inductionHypothesis others (before ++ [statement])
      rw [List.append_assoc] at reads
      exact ⟨added, .cons (Draft.reads_statement first rfl) reads⟩

/-- A legal item is read between procedures, if there is nothing of its kind or name before. -/
theorem Item.Legal.exists_readsAll {item : Item} (legal : item.Legal vocabulary)
    (first : ∀ name ∈ item.main?, program.main = none)
    (fresh : ∀ name ∈ item.name?, program.procedures.contains name = false) :
    ∃ added, Draft.ReadsAll vocabulary line item.lines ⟨program, none, references⟩
      ⟨extendProgram program item, none, added⟩ := by
  cases item with
  | run name => exact ⟨_, .cons (.starts rfl (first name rfl)) .nil⟩
  | block name body =>
      obtain ⟨-, filled, plain, statements⟩ := legal
      obtain ⟨added, reads⟩ : ∃ added, Draft.ReadsAll vocabulary (line + 1)
          (body.map Statement.words) ⟨program, some (name, []), references⟩
          ⟨program, some (name, body), added⟩ := exists_readsAll_body statements []
      exact ⟨added, .cons (.opens rfl (fresh name rfl))
        (reads.append (.cons (.closes rfl filled plain) .nil))⟩

/-- Legal items are read one after the other, if no name is used twice. The induction is on the
items from the last one. -/
theorem exists_readsAll_items (one_main : (mains items).length ≤ 1)
    (names_nodup : (blockNames items).Nodup) (legal : ∀ item ∈ items, item.Legal vocabulary) :
    ∃ added, Draft.ReadsAll vocabulary 1 (items.flatMap Item.lines) {}
      ⟨programOf items, none, added⟩ := by
  induction items using List.reverseRecOn with
  | nil => exact ⟨[], .nil⟩
  | append_singleton items item inductionHypothesis =>
      rw [mains, List.filterMap_append, List.length_append] at one_main
      rw [blockNames, List.filterMap_append, List.nodup_append] at names_nodup
      obtain ⟨earlier, last⟩ := List.forall_mem_append.mp legal
      have one : (mains items).length ≤ 1 := Nat.le_of_add_right_le one_main
      have describes := describes_programOf one names_nodup.1
      have first : ∀ name ∈ item.main?, (programOf items).main = none := by
        intro name own
        have unnamed : mains items = [] := by
          rw [Option.mem_def] at own
          rw [List.filterMap_cons_some own, List.filterMap_nil, List.length_singleton] at one_main
          exact List.eq_nil_of_length_eq_zero (by rw [mains]; omega)
        exact describes.main_eq_none unnamed
      have fresh : ∀ name ∈ item.name?, (programOf items).procedures.contains name = false := by
        intro name own
        rw [Bool.eq_false_iff, ne_eq, describes.contains_iff, defines_iff]
        intro member
        rw [Option.mem_def] at own
        exact names_nodup.2.2 name member name (by simp [own]) rfl
      obtain ⟨references, reads⟩ := inductionHypothesis one names_nodup.1 earlier
      obtain ⟨added, own⟩ : ∃ added, Draft.ReadsAll vocabulary
          (1 + (items.flatMap Item.lines).length) item.lines ⟨programOf items, none, references⟩
          ⟨extendProgram (programOf items) item, none, added⟩ :=
        (last item List.mem_cons_self).exists_readsAll first fresh
      rw [programOf_concat, List.flatMap_append, List.flatMap_singleton]
      exact ⟨added, reads.append own⟩

/-- Legal items, and an empty line after them, are in their place if no name is used twice. -/
theorem shapes_of_legal (one_main : (mains items).length ≤ 1)
    (names_nodup : (blockNames items).Nodup) (legal : ∀ item ∈ items, item.Legal vocabulary) :
    (⟨items, none⟩ : Outline).Shapes vocabulary (items.flatMap Item.lines ++ [[]]) := by
  refine ⟨?_, one_main, by simpa using names_nodup, fun member => ?_, fun member => ?_, nofun⟩
  · have visible : ∀ words ∈ items.flatMap Item.lines, decide (words ≠ []) = true := by
      rw [List.forall_mem_flatMap]
      exact fun item _ words member => decide_eq_true (item.lines_ne_nil words member)
    rw [List.filter_append, List.filter_eq_self.mpr visible]
    simp [Outline.lines, Outline.openLines]
  · obtain ⟨-, filled, -, -⟩ := legal _ member
    exact filled
  · obtain ⟨-, -, -, statements⟩ := legal _ member
    exact fun statement inside => (statements statement inside).shaped

/-- Legal items that describe a program are read as this program, if the names that they use are
known and no name is used twice. -/
theorem read_listing_of_legal (one_main : (mains items).length ≤ 1)
    (names_nodup : (blockNames items).Nodup) (legal : ∀ item ∈ items, item.Legal vocabulary)
    (resolved : Resolved vocabulary items) (describes : Describes items program) :
    read vocabulary (listing items) = .ok program := by
  have written : (lines (listing items).toList).map lineWords = items.flatMap Item.lines ++ [[]] :=
    wordsOf_listing legal
  obtain ⟨added, reads⟩ := exists_readsAll_items one_main names_nodup legal
  have whole : Draft.ReadsAll vocabulary 1 (items.flatMap Item.lines ++ [[]]) {}
      ⟨programOf items, none, added⟩ := reads.append (.cons .blank .nil)
  have same : programOf items = program :=
    (describes_programOf one_main names_nodup).unique describes
  have references : added = textReferences vocabulary (items.flatMap Item.lines ++ [[]]) :=
    whole.references_eq
  have defined := (shapes_of_legal one_main names_nodup legal).forall_defines_iff.mpr resolved
  refine read_eq_ok_iff.mpr ⟨_, written ▸ whole, rfl, same, fun reference member => ?_⟩
  rw [references] at member
  exact same ▸ describes.contains_iff.mpr (defined reference member)

end Reading

/-- The names that a program uses are known, as items that describe it say them. -/
theorem resolved_of_wellFormed {program : Program} {items : List Item}
    (wellFormed : program.WellFormed vocabulary) (describes : Describes items program) :
    Resolved vocabulary items where
  main_defined name member :=
    describes.contains_iff.mp (wellFormed.main_defined ((describes.main name).mpr member))
  target_known name body member statement inside target goal := by
    have stored := (describes.procedures name body).mpr member
    have known := (wellFormed.resolved stored statement inside).target_known target goal
    exact known.imp_right describes.contains_iff.mp

/-- In a program that was read from an ASCII text, each statement is shown as a line with its words,
and the program is read again from its items, in whatever order they are written. -/
theorem read_listing (vocabulary : Vocabulary σ ε) (source : String) (program : Program)
    (ascii : ∀ character ∈ source.toList, character.toNat < 128)
    (accepted : read vocabulary source = .ok program) :
    (∀ (name : String) (body : List Statement), program.procedures[name]? = some body →
      ∀ statement ∈ body, lineWords statement.text.toList = statement.words) ∧
    ∀ items : List Item, items.Perm (itemsOf program) →
      read vocabulary (listing items) = .ok program := by
  have legal := legal_of_read ascii accepted
  have whole := describes_itemsOf program
  refine ⟨fun name body found statement member => ?_, fun items order => ?_⟩
  · obtain ⟨-, -, -, statements⟩ := legal _ ((whole.procedures name body).mp found)
    exact (shows_text (statements statement member).named).lineWords_eq
  · have describes : Describes items program :=
      ⟨fun name => (whole.main name).trans order.symm.mem_iff,
        fun name body => (whole.procedures name body).trans order.symm.mem_iff⟩
    have one_main : (mains items).length ≤ 1 := by
      rw [mains, (order.filterMap _).length_eq, ← mains, mains_itemsOf]
      exact Option.length_toList_le
    have names_nodup : (blockNames items).Nodup := by
      rw [blockNames, (order.filterMap _).nodup_iff, ← blockNames, blockNames_itemsOf]
      exact Std.ExtTreeMap.nodup_keys
    exact read_listing_of_legal one_main names_nodup
      (fun item member => legal item (order.mem_iff.mp member))
      (resolved_of_wellFormed (wellFormed_of_read accepted) describes) describes

/-- Keywords as names are written like any other name. -/
example : listing [.run "end", .block "end" [.choose "ifwall" "define" "end"]] =
    "RUN end\nDEFINE end\nIFWALL DEFINE END\nEND\n" := by
  decide +kernel

/-- A text whose procedures are named like keywords, and are used before they are defined. -/
def crossedSource : String :=
  "RUN end\nDEFINE end\n IFWALL define End\nEND\nDEFINE define\n move\nEND"

/-- It is read again when its items are written the other way round. -/
theorem read_listing_crossed :
    ∃ program, (∀ character ∈ crossedSource.toList, character.toNat < 128) ∧
      read (.standard : Vocabulary World Refusal) crossedSource = .ok program ∧
      (itemsOf program).reverse.Perm (itemsOf program) ∧
      read (.standard : Vocabulary World Refusal) (listing (itemsOf program).reverse) =
        .ok program := by
  have ascii : ∀ character ∈ crossedSource.toList, character.toNat < 128 :=
    ascii_of_all (by decide +kernel)
  obtain ⟨program, accepted⟩ : ∃ program,
      read (.standard : Vocabulary World Refusal) crossedSource = .ok program :=
    exists_of_isOk (by decide +kernel)
  have order : (itemsOf program).reverse.Perm (itemsOf program) := List.reverse_perm _
  exact ⟨program, ascii, accepted, order,
    (read_listing .standard crossedSource program ascii accepted).2 _ order⟩

end Language

end Karel
