import Karel.Proofs.Language.Undefined
import Karel.Proofs.Text.Letters
import Mathlib.Order.WellFounded

/-!
# The layout of program text

What a text means does not depend on how it is laid out. `Reshaped` lists what can be changed within
a line: the case of letters, blanks where words stay apart, and a comment at its end. `Edited` is a
change of one line or a new line without code, together with the new number of each line, and
`Relaid` any number of such changes one after the other. No change within a line changes its words.
A new line moves the lines after it, and reading commutes with that: a draft, a fault and a list of
undefined names are those from before with their lines renumbered. So `read_relaid` is that the
other text is read as the same program, or refused for the same reason on the lines that were moved.
-/

namespace Karel.Language

open Text

variable {σ ε : Type} {vocabulary : Vocabulary σ ε}

/-- What a line has before its comment. -/
def codeOf (line : List Char) : List Char := line.takeWhile (· != '#')

/-- Whether a gap separates what is before it from what is after it, because there is a blank in it
or on one of its sides, or because the line starts before it or ends after it. -/
def KeepsApart (before gap after : List Char) : Prop :=
  gap ≠ [] ∨ (∀ character ∈ before.getLast?, isBlank character = true) ∨
    ∀ character ∈ after.head?, isBlank character = true ∨ character = '#'

/-- A change of the layout within a line. -/
inductive Reshaped : List Char → List Char → Prop
  /-- Writes a letter in the other case. -/
  | case (before after : List Char) {letter other : Char} (same : letter.toLower = other.toLower) :
      Reshaped (before ++ letter :: after) (before ++ other :: after)
  /-- Writes other blanks between words, or at an end of the line. -/
  | space (before gap other after : List Char)
      (blank : ∀ character ∈ gap ++ other, isBlank character = true)
      (apart : KeepsApart before gap after) (stillApart : KeepsApart before other after) :
      Reshaped (before ++ gap ++ after) (before ++ other ++ after)
  /-- Writes a comment at the end of the line. -/
  | comment (line note : List Char) : Reshaped line (line ++ '#' :: note)

/-- A change of the layout of a text, given as its lines. The function tells the new number of each
line. -/
inductive Edited : List (List Char) → List (List Char) → (Nat → Nat) → Prop
  | line (before after : List (List Char)) {old new : List Char} (reshaped : Reshaped old new) :
      Edited (before ++ old :: after) (before ++ new :: after) id
  /-- A new line has blanks and a comment at most. -/
  | insert (before after : List (List Char)) {line : List Char}
      (blank : ∀ character ∈ codeOf line, isBlank character = true) :
      Edited (before ++ after) (before ++ line :: after)
        fun number => if number ≤ before.length then number else number + 1

/-- Lines that come from those of a source by changes of the layout, with the new number of each
line of the source. -/
inductive Relaid (source : List (List Char)) : List (List Char) → (Nat → Nat) → Prop
  | same : Relaid source source id
  | edit {middle edited : List (List Char)} {earlier last : Nat → Nat}
      (relaid : Relaid source middle earlier) (change : Edited middle edited last) :
      Relaid source edited (last ∘ earlier)

/-- The lines of a text keep their order and their words when they get new numbers. -/
structure Moves (renumber : Nat → Nat) (text moved : List (List String)) : Prop where
  ordered : StrictMono renumber
  words : ∀ {index : Nat} {words : List String}, text[index]? = some words →
    moved[renumber (index + 1) - 1]? = some words

/-! ## Renumbering -/

/-- The reference with a new number for its line. -/
def Reference.renumbered (renumber : Nat → Nat) (reference : Reference) : Reference :=
  { reference with line := renumber reference.line }

/-- The undefined name with new numbers for its lines. -/
def UndefinedName.renumbered (renumber : Nat → Nat) (undefined : UndefinedName) : UndefinedName :=
  { undefined with lines := undefined.lines.map renumber }

/-- The fault with new numbers for the lines that it tells. -/
def SourceFault.renumbered (renumber : Nat → Nat) : SourceFault → SourceFault
  | wordCount line expected found => wordCount (renumber line) expected found
  | unknownDeclaration line word => unknownDeclaration (renumber line) word
  | unterminated line keyword => unterminated (renumber line) keyword
  | unterminatedAtEnd name => unterminatedAtEnd name
  | duplicateProcedure line name => duplicateProcedure (renumber line) name
  | duplicateRun line => duplicateRun (renumber line)
  | emptyProcedure line => emptyProcedure (renumber line)
  | undefined names => undefined (names.map (·.renumbered renumber))

/-- The draft with new numbers for the lines of its references. -/
def Draft.renumbered (renumber : Nat → Nat) (draft : Draft) : Draft :=
  { draft with references := draft.references.map (·.renumbered renumber) }

/-- What reading gave, with new numbers for the lines. -/
def renumberedResult (renumber : Nat → Nat) (result : Except SourceFault Draft) :
    Except SourceFault Draft :=
  (result.map (·.renumbered renumber)).mapError (·.renumbered renumber)

section Renumbering

variable {renumber : Nat → Nat} {draft : Draft} {line : Nat} {name : String}
  {body : List Statement} {words : List String} {names : List UndefinedName}
  {text moved : List (List String)}

@[simp]
theorem renumberedResult_ok :
    renumberedResult renumber (.ok draft) = .ok (draft.renumbered renumber) := rfl

@[simp]
theorem renumberedResult_error {fault : SourceFault} :
    renumberedResult renumber (.error fault) = .error (fault.renumbered renumber) := rfl

@[simp]
theorem Draft.open?_renumbered : (draft.renumbered renumber).open? = draft.open? := rfl

@[simp]
theorem Draft.program_renumbered : (draft.renumbered renumber).program = draft.program := rfl

theorem calls_renumbered (line : Nat) (names : List String) :
    calls vocabulary (renumber line) names =
      (calls vocabulary line names).map (·.renumbered renumber) := by
  rw [calls, calls, List.map_map]
  rfl

theorem Draft.push_renumbered {statement : Statement} {references : List Reference} :
    (draft.renumbered renumber).push name body statement
        (references.map (·.renumbered renumber)) =
      (draft.push name body statement references).renumbered renumber := by
  simp only [push, renumbered, List.map_append]

theorem Draft.declare_renumbered :
    (draft.renumbered renumber).declare (renumber line) words =
      renumberedResult renumber (draft.declare line words) := by
  fun_cases draft.declare line words with
  | case1 name repeated => simp [declare, renumbered, SourceFault.renumbered, repeated]
  | case2 name fresh => simp [declare, renumbered, fresh]
  | case3 name again => simp [declare, renumbered, SourceFault.renumbered, again]
  | case4 name first => simp [declare, renumbered, Reference.renumbered, first]
  | case5 word rest notDefine notRun => simp [declare, SourceFault.renumbered]
  | case6 => rfl

theorem Draft.readBody_renumbered :
    (draft.renumbered renumber).readBody vocabulary (renumber line) name body words =
      renumberedResult renumber (draft.readBody vocabulary line name body words) := by
  fun_cases draft.readBody vocabulary line name body words with
  | case1 rest => simp [readBody, SourceFault.renumbered]
  | case2 rest => simp [readBody, SourceFault.renumbered]
  | case3 empty => simp [readBody, SourceFault.renumbered, empty]
  | case4 filled => simp [readBody, renumbered, filled]
  | case5 condition yes no notDefine notRun =>
      simp [readBody, calls_renumbered, push_renumbered]
  | case6 invoked notDefine notRun notEnd =>
      simp [readBody, calls_renumbered, push_renumbered]
  | case7 notDefine notRun notEnd notThree notOne => simp [readBody]

/-- Reading a line under another number gives the same, with the line renumbered. -/
theorem Draft.readLine_renumbered (vocabulary : Vocabulary σ ε) (renumber : Nat → Nat)
    (draft : Draft) (line : Nat) (words : List String) :
    (draft.renumbered renumber).readLine vocabulary (renumber line) words =
      renumberedResult renumber (draft.readLine vocabulary line words) := by
  cases words with
  | nil => rfl
  | cons keyword rest =>
      simp only [readLine, open?_renumbered]
      split
      next => rfl
      next =>
        cases draft.open? with
        | none => exact declare_renumbered
        | some entry => exact readBody_renumbered

/-- Lines that are all moved by the same distance are read as before. -/
theorem Draft.readLines_shifted {target : Nat}
    (shifted : ∀ index < text.length, renumber (line + index) = target + index) :
    Draft.readLines vocabulary target text (draft.renumbered renumber) =
      renumberedResult renumber (Draft.readLines vocabulary line text draft) := by
  induction text generalizing line target draft with
  | nil => rfl
  | cons words rest inductionHypothesis =>
      have first : renumber line = target := shifted 0 (Nat.zero_lt_succ _)
      have others : ∀ index < rest.length,
          renumber (line + 1 + index) = target + 1 + index := by
        intro index less
        rw [Nat.add_right_comm, Nat.add_assoc, shifted _ (Nat.succ_lt_succ less)]
        omega
      rw [Draft.readLines, Draft.readLines, ← first, readLine_renumbered]
      cases draft.readLine vocabulary line words with
      | error fault => rfl
      | ok middle =>
          rw [first]
          exact inductionHypothesis others

/-- A line without words that is new moves the lines after it by one. The induction is on the lines
before it, which keep their numbers. -/
theorem Draft.readLines_inserted {before after : List (List String)}
    (kept : ∀ index < before.length, renumber (line + index) = line + index)
    (shifted : ∀ index < after.length,
      renumber (line + before.length + index) = line + before.length + 1 + index) :
    Draft.readLines vocabulary line (before ++ [] :: after) (draft.renumbered renumber) =
      renumberedResult renumber (Draft.readLines vocabulary line (before ++ after) draft) := by
  induction before generalizing line draft with
  | nil => exact readLines_shifted shifted
  | cons words rest inductionHypothesis =>
      have first : renumber line = line := kept 0 (Nat.zero_lt_succ _)
      have later : ∀ index < rest.length, renumber (line + 1 + index) = line + 1 + index := by
        intro index less
        rw [Nat.add_assoc, Nat.add_comm 1]
        exact kept _ (Nat.succ_lt_succ less)
      have start : line + 1 + rest.length = line + (words :: rest).length := by
        rw [List.length_cons]
        omega
      have read := readLine_renumbered vocabulary renumber draft line words
      rw [first] at read
      rw [List.cons_append, List.cons_append, Draft.readLines, Draft.readLines, read]
      cases draft.readLine vocabulary line words with
      | error fault => rfl
      | ok middle => exact inductionHypothesis later (by rwa [start])

/-- Entering a use in a list of undefined names commutes with renumbering both. -/
theorem addUndefined_renumbered (names : List UndefinedName) (reference : Reference) :
    addUndefined (names.map (·.renumbered renumber)) (reference.renumbered renumber) =
      (addUndefined names reference).map (·.renumbered renumber) := by
  have used : (names.map (·.renumbered renumber)).any (·.name == reference.name) =
      names.any (·.name == reference.name) := List.any_map
  unfold addUndefined
  rw [show (reference.renumbered renumber).name = reference.name from rfl, used]
  split
  next =>
    rw [List.map_map, List.map_map]
    refine List.map_congr_left fun undefined _ => ?_
    by_cases same : undefined.name = reference.name <;>
      simp [UndefinedName.renumbered, Reference.renumbered, same]
  next => simp [UndefinedName.renumbered, Reference.renumbered]

theorem undefinedNames_renumbered (program : Program) (references : List Reference) :
    undefinedNames program (references.map (·.renumbered renumber)) =
      (undefinedNames program references).map (·.renumbered renumber) := by
  have entered : ∀ (references : List Reference) (names : List UndefinedName),
      (references.map (·.renumbered renumber)).foldl addUndefined
          (names.map (·.renumbered renumber)) =
        (references.foldl addUndefined names).map (·.renumbered renumber) := by
    intro references
    induction references with
    | nil => exact fun _ => rfl
    | cons reference rest inductionHypothesis =>
        intro names
        rw [List.map_cons, List.foldl_cons, List.foldl_cons, addUndefined_renumbered,
          inductionHypothesis]
  unfold undefinedNames
  rw [List.filter_map]
  exact entered _ []

/-- A text ends as before, and the undefined names are told with the new numbers. -/
theorem Draft.finish_renumbered :
    (draft.renumbered renumber).finish = draft.finish.mapError (·.renumbered renumber) := by
  unfold finish
  rw [open?_renumbered, program_renumbered]
  cases draft.open? with
  | some entry => rfl
  | none =>
      dsimp only
      rw [show (draft.renumbered renumber).references =
        draft.references.map (·.renumbered renumber) from rfl, undefinedNames_renumbered]
      cases undefinedNames draft.program draft.references with
      | nil => rfl
      | cons first others => rfl

/-- A new line without words is not read, but it moves the lines after it. -/
theorem readWords_inserted {before after : List (List String)}
    (kept : ∀ number ≤ before.length, renumber number = number)
    (shifted : ∀ number > before.length, renumber number = number + 1) :
    readWords vocabulary (before ++ [] :: after) =
      (readWords vocabulary (before ++ after)).mapError (·.renumbered renumber) := by
  have start : ({} : Draft) = ({} : Draft).renumbered renumber := rfl
  have inserted : Draft.readLines vocabulary 1 (before ++ [] :: after) {} =
      renumberedResult renumber (Draft.readLines vocabulary 1 (before ++ after) {}) := by
    rw [start]
    refine Draft.readLines_inserted (fun index less => kept _ (by omega)) fun index _ => ?_
    rw [shifted _ (by omega), Nat.add_right_comm]
  unfold readWords
  rw [inserted]
  cases Draft.readLines vocabulary 1 (before ++ after) {} with
  | error fault => rfl
  | ok draft => exact Draft.finish_renumbered

theorem SourceFault.renumbered_id (fault : SourceFault) : fault.renumbered id = fault := by
  cases fault with
  | undefined names => simp [renumbered, UndefinedName.renumbered]
  | _ => rfl

theorem SourceFault.renumbered_renumbered (fault : SourceFault) (earlier last : Nat → Nat) :
    (fault.renumbered earlier).renumbered last = fault.renumbered (last ∘ earlier) := by
  cases fault with
  | undefined names => simp [renumbered, UndefinedName.renumbered]
  | _ => rfl

theorem mapError_renumbered_id (result : Except SourceFault Program) :
    result.mapError (·.renumbered id) = result := by
  cases result with
  | error fault => exact congrArg _ fault.renumbered_id
  | ok program => rfl

theorem mapError_renumbered (result : Except SourceFault Program) (earlier last : Nat → Nat) :
    (result.mapError (·.renumbered earlier)).mapError (·.renumbered last) =
      result.mapError (·.renumbered (last ∘ earlier)) := by
  cases result with
  | error fault => exact congrArg _ (fault.renumbered_renumbered earlier last)
  | ok program => rfl

end Renumbering

/-! ## Lines -/

section Lines

variable {line old new before gap after : List Char}

/-- Whether what a line has before its comment is ASCII text and blanks. -/
def HasPlainCode (line : List Char) : Prop := ∀ character ∈ codeOf line, IsPlain character

theorem codeOf_append_of_mem (comment : '#' ∈ before) :
    codeOf (before ++ after) = codeOf before := by
  induction before with
  | nil => cases comment
  | cons character rest inductionHypothesis =>
      rw [codeOf, codeOf, List.cons_append, List.takeWhile_cons, List.takeWhile_cons]
      split
      next code =>
        have later : '#' ∈ rest := by
          rcases List.mem_cons.mp comment with rfl | later
          · cases code
          · exact later
        exact congrArg _ (inductionHypothesis later)
      next => rfl

theorem codeOf_append_of_not_mem (code : '#' ∉ before) :
    codeOf (before ++ after) = before ++ codeOf after := by
  refine List.takeWhile_append_of_pos fun character member => ?_
  rw [bne_iff_ne]
  rintro rfl
  exact code member

/-- No blank starts a comment. -/
theorem not_mem_of_isBlank (blank : ∀ character ∈ gap, isBlank character = true) : '#' ∉ gap :=
  fun member => absurd (blank _ member) (by decide)

theorem codeOf_append_gap (blank : ∀ character ∈ gap, isBlank character = true)
    (code : '#' ∉ before) : codeOf (before ++ gap ++ after) = before ++ gap ++ codeOf after :=
  codeOf_append_of_not_mem (by simp [code, not_mem_of_isBlank blank])

theorem codeOf_append_comment (note : List Char) : codeOf (line ++ '#' :: note) = codeOf line := by
  by_cases comment : '#' ∈ line
  · exact codeOf_append_of_mem comment
  · have whole : codeOf (line ++ []) = line ++ [] := codeOf_append_of_not_mem comment
    rw [List.append_nil] at whole
    rw [codeOf_append_of_not_mem comment, whole]
    exact List.append_nil line

theorem codeOf_map_toLower (line : List Char) :
    codeOf (line.map Char.toLower) = (codeOf line).map Char.toLower := by
  have same : ((· != '#') ∘ Char.toLower) = (· != '#') := by
    funext character
    rw [Function.comp_apply, Bool.eq_iff_iff, bne_iff_ne, bne_iff_ne, ne_eq, ne_eq,
      toLower_eq_iff_of_toNat (by decide) (by decide)]
  rw [codeOf, List.takeWhile_map, same]
  rfl

/-- In a line of plain code, only the words of the code count, and not the case of their letters. -/
theorem HasPlainCode.lineWords_eq (plain : HasPlainCode line) :
    lineWords line = ((words (codeOf line)).map (·.map Char.toLower)).map String.ofList := by
  rw [← words_map_toLower, ← Case.lower_of_isPlain plain]
  rfl

theorem hasPlainCode_map_toLower : HasPlainCode (line.map Char.toLower) ↔ HasPlainCode line := by
  simp only [HasPlainCode, codeOf_map_toLower, List.forall_mem_map, isPlain_toLower]

/-- What is kept apart has the words of both sides. -/
theorem KeepsApart.words_codeOf (apart : KeepsApart before gap after)
    (blank : ∀ character ∈ gap, isBlank character = true) (code : '#' ∉ before) :
    words (codeOf (before ++ gap ++ after)) = words before ++ words (codeOf after) := by
  rw [codeOf_append_gap blank code]
  by_cases some : gap = []
  · subst some
    rw [List.append_nil]
    rcases apart with nonempty | ended | starts
    · exact absurd rfl nonempty
    · rcases before.eq_nil_or_concat with rfl | ⟨earlier, last, rfl⟩
      · rfl
      · have blankLast : isBlank last = true := ended last (by simp)
        rw [List.concat_eq_append, List.append_assoc, List.singleton_append,
          words_append_cons blankLast, words_append_cons blankLast, words_nil, List.append_nil]
    · cases after with
      | nil => simp [codeOf]
      | cons first rest =>
          rcases starts first rfl with blankFirst | rfl
          · have noComment : '#' ∉ [first] := not_mem_of_isBlank (by simpa using blankFirst)
            have code : codeOf (first :: rest) = first :: codeOf rest :=
              codeOf_append_of_not_mem noComment
            rw [code, words_append_cons blankFirst, words_cons_of_isBlank blankFirst]
          · simp [codeOf]
  · exact words_append_gap blank some

/-- A change within a line leaves its code plain and keeps its words. -/
theorem Reshaped.lineWords_eq (reshaped : Reshaped old new) (plain : HasPlainCode old) :
    HasPlainCode new ∧ lineWords new = lineWords old := by
  suffices kept : HasPlainCode new ∧ (words (codeOf new)).map (·.map Char.toLower) =
      (words (codeOf old)).map (·.map Char.toLower) by
    exact ⟨kept.1, by rw [plain.lineWords_eq, kept.1.lineWords_eq, kept.2]⟩
  cases reshaped with
  | @case before after letter other same =>
      have lowered : (before ++ other :: after).map Char.toLower =
          (before ++ letter :: after).map Char.toLower := by
        rw [List.map_append, List.map_append, List.map_cons, List.map_cons, same]
      refine ⟨?_, ?_⟩
      · rwa [← hasPlainCode_map_toLower, lowered, hasPlainCode_map_toLower]
      · rw [← words_map_toLower, ← words_map_toLower, ← codeOf_map_toLower, ← codeOf_map_toLower,
          lowered]
  | space before gap other after blank apart stillApart =>
      rw [List.forall_mem_append] at blank
      by_cases comment : '#' ∈ before
      · rw [HasPlainCode, List.append_assoc, codeOf_append_of_mem comment] at plain ⊢
        rw [List.append_assoc, codeOf_append_of_mem comment]
        exact ⟨plain, rfl⟩
      · rw [stillApart.words_codeOf blank.2 comment, apart.words_codeOf blank.1 comment]
        refine ⟨?_, rfl⟩
        rw [HasPlainCode, codeOf_append_gap blank.1 comment, List.forall_mem_append,
          List.forall_mem_append] at plain
        rw [HasPlainCode, codeOf_append_gap blank.2 comment, List.forall_mem_append,
          List.forall_mem_append]
        exact ⟨⟨plain.1.1, fun character member => .inr (blank.2 character member)⟩, plain.2⟩
  | comment line note =>
      rw [HasPlainCode, codeOf_append_comment]
      exact ⟨plain, rfl⟩

/-- A new line without code has no words. -/
theorem lineWords_of_blank (blank : ∀ character ∈ codeOf line, isBlank character = true) :
    HasPlainCode line ∧ lineWords line = [] := by
  have plain : HasPlainCode line := fun character member => .inr (blank character member)
  have none : words (codeOf line) = [] := by
    rw [← List.append_nil (codeOf line), words_append_of_isBlank blank, words_nil]
  exact ⟨plain, by rw [plain.lineWords_eq, none]; rfl⟩

end Lines

/-! ## Texts -/

section Texts

variable {source edited old new : List (List Char)} {renumber : Nat → Nat}

namespace Edited

/-- A change of the layout leaves the code of all lines plain. -/
theorem plain (change : Edited old new renumber) (plain : ∀ line ∈ old, HasPlainCode line) :
    ∀ line ∈ new, HasPlainCode line := by
  cases change with
  | line before after reshaped =>
      rw [List.forall_mem_append, List.forall_mem_cons] at plain ⊢
      exact ⟨plain.1, (reshaped.lineWords_eq plain.2.1).1, plain.2.2⟩
  | insert before after blank =>
      rw [List.forall_mem_append] at plain
      rw [List.forall_mem_append, List.forall_mem_cons]
      exact ⟨plain.1, (lineWords_of_blank blank).1, plain.2⟩

/-- What a change of the layout does to the words of a text: nothing, or it adds an empty line. -/
theorem words_cases (change : Edited old new renumber) (plain : ∀ line ∈ old, HasPlainCode line) :
    (renumber = id ∧ new.map lineWords = old.map lineWords) ∨
      ∃ before after : List (List String), old.map lineWords = before ++ after ∧
        new.map lineWords = before ++ [] :: after ∧
        renumber = fun number => if number ≤ before.length then number else number + 1 := by
  cases change with
  | line before after reshaped =>
      have middle := (reshaped.lineWords_eq (plain _ (by simp))).2
      exact .inl ⟨rfl, by simp [middle]⟩
  | insert before after blank =>
      exact .inr ⟨before.map lineWords, after.map lineWords, List.map_append,
        by simp [(lineWords_of_blank blank).2], by rw [List.length_map]⟩

/-- A change of the layout moves the lines in their order. -/
theorem moves (change : Edited old new renumber) (plain : ∀ line ∈ old, HasPlainCode line) :
    Moves renumber (old.map lineWords) (new.map lineWords) := by
  rcases change.words_cases plain with ⟨rfl, same⟩ | ⟨before, after, earlier, later, rfl⟩
  · rw [same]
    exact ⟨strictMono_id, id⟩
  · rw [earlier, later]
    refine ⟨strictMono_nat_of_lt_succ fun number => ?_, fun {index words} found => ?_⟩
    · split <;> split <;> omega
    · split
      next first =>
        rw [Nat.add_sub_cancel, List.getElem?_append_left (by omega)]
        rwa [List.getElem?_append_left (by omega)] at found
      next =>
        rw [List.getElem?_append_right (by omega)] at found
        rw [List.getElem?_append_right (by omega), show index + 1 + 1 - 1 - before.length =
          index - before.length + 1 by omega, List.getElem?_cons_succ]
        exact found

/-- A change of the layout changes nothing of what is read but the numbers of lines in a fault. -/
theorem readWords_eq (change : Edited old new renumber) (plain : ∀ line ∈ old, HasPlainCode line)
    (vocabulary : Vocabulary σ ε) :
    readWords vocabulary (new.map lineWords) =
      (readWords vocabulary (old.map lineWords)).mapError (·.renumbered renumber) := by
  rcases change.words_cases plain with ⟨rfl, same⟩ | ⟨before, after, earlier, later, rfl⟩
  · rw [same, mapError_renumbered_id]
  · rw [earlier, later]
    exact readWords_inserted (fun _ low => if_pos low) fun _ high => if_neg (Nat.not_le.mpr high)

end Edited

namespace Relaid

theorem plain (relaid : Relaid source edited renumber)
    (plain : ∀ line ∈ source, HasPlainCode line) : ∀ line ∈ edited, HasPlainCode line := by
  induction relaid with
  | same => exact plain
  | edit _ change inductionHypothesis => exact change.plain inductionHypothesis

theorem moves (relaid : Relaid source edited renumber)
    (plain : ∀ line ∈ source, HasPlainCode line) :
    Moves renumber (source.map lineWords) (edited.map lineWords) := by
  induction relaid with
  | same => exact ⟨strictMono_id, id⟩
  | @edit middle edited earlier last relaid change inductionHypothesis =>
      have step := change.moves (relaid.plain plain)
      refine ⟨step.ordered.comp inductionHypothesis.ordered, fun {index words} found => ?_⟩
      have positive : index + 1 ≤ earlier (index + 1) :=
        StrictMono.le_apply inductionHypothesis.ordered
      have next := step.words (inductionHypothesis.words found)
      rwa [Nat.sub_add_cancel (by omega)] at next

theorem readWords_eq (relaid : Relaid source edited renumber)
    (plain : ∀ line ∈ source, HasPlainCode line) (vocabulary : Vocabulary σ ε) :
    readWords vocabulary (edited.map lineWords) =
      (readWords vocabulary (source.map lineWords)).mapError (·.renumbered renumber) := by
  induction relaid with
  | same => rw [mapError_renumbered_id]
  | edit relaid change inductionHypothesis =>
      rw [change.readWords_eq (relaid.plain plain), inductionHypothesis, mapError_renumbered]

end Relaid

/-- The lines of an ASCII text have plain code. -/
theorem hasPlainCode_of_ascii {text : List Char}
    (ascii : ∀ character ∈ text, character.toNat < 128) : ∀ line ∈ lines text, HasPlainCode line :=
  fun _ member character inside => .inl (ascii character
    (mem_of_mem_lines member character (List.takeWhile_subset _ inside)))

end Texts

/-- A text that differs from an ASCII source in its layout only has the lines of the source, in
their order and with the same words. It is read as the same program, or refused for the same reason,
with the number of every line that is told replaced by the new number of this line. -/
theorem read_relaid (vocabulary : Vocabulary σ ε) (source edited : String) (renumber : Nat → Nat)
    (ascii : ∀ character ∈ source.toList, character.toNat < 128)
    (relaid : Relaid (lines source.toList) (lines edited.toList) renumber) :
    Moves renumber (wordsOf source) (wordsOf edited) ∧
      read vocabulary edited = (read vocabulary source).mapError (·.renumbered renumber) := by
  have plain := hasPlainCode_of_ascii ascii
  exact ⟨relaid.moves plain, relaid.readWords_eq plain vocabulary⟩

/-- A text that runs a procedure which calls an undefined one. -/
def shortSource : String := "RUN a\nDEFINE a\n b\nEND"

/-- The same text with a wider gap, a capital letter, a comment and a line for a comment. -/
def longSource : String := "RUN  A\n# b\nDEFINE a#\n b\nEND"

/-- The use of the undefined procedure is reported on the line that it was moved to. -/
theorem read_relaid_short :
    (∀ character ∈ shortSource.toList, character.toNat < 128) ∧
    ∃ renumber : Nat → Nat, Relaid (lines shortSource.toList) (lines longSource.toList) renumber ∧
      Moves renumber (wordsOf shortSource) (wordsOf longSource) ∧
      read (.standard : Vocabulary World Refusal) shortSource =
        .error (.undefined [⟨"b", [3]⟩]) ∧
      read (.standard : Vocabulary World Refusal) longSource =
        .error (.undefined [⟨"b", [4]⟩]) := by
  have ascii : ∀ character ∈ shortSource.toList, character.toNat < 128 :=
    ascii_of_all (by decide +kernel)
  have short : lines shortSource.toList = [['R', 'U', 'N', ' ', 'a'],
      ['D', 'E', 'F', 'I', 'N', 'E', ' ', 'a'], [' ', 'b'], ['E', 'N', 'D']] := by
    decide +kernel
  have long : lines longSource.toList = [['R', 'U', 'N', ' ', ' ', 'A'], ['#', ' ', 'b'],
      ['D', 'E', 'F', 'I', 'N', 'E', ' ', 'a', '#'], [' ', 'b'], ['E', 'N', 'D']] := by
    decide +kernel
  obtain ⟨renumber, moved, relaid⟩ : ∃ renumber : Nat → Nat, renumber 3 = 4 ∧
      Relaid (lines shortSource.toList) (lines longSource.toList) renumber := by
    rw [short, long]
    refine ⟨_, ?_, .edit (.edit (.edit (.edit .same
      (.line [] _ (.space ['R', 'U', 'N'] [' '] [' ', ' '] ['a'] (List.all_eq_true.mp (by decide))
        (.inl (by simp)) (.inl (by simp)))))
      (.line [] _ (.case ['R', 'U', 'N', ' ', ' '] [] (by decide))))
      (.line [_] _ (.comment _ [])))
      (.insert [_] _ (List.all_eq_true.mp (by decide)))⟩
    rfl
  obtain ⟨moves, same⟩ := read_relaid (.standard : Vocabulary World Refusal) shortSource longSource
    renumber ascii relaid
  have report : read (.standard : Vocabulary World Refusal) shortSource =
      .error (.undefined [⟨"b", [3]⟩]) := eq_error_of_fault (by decide +kernel)
  refine ⟨ascii, renumber, relaid, moves, report, ?_⟩
  rw [same, report]
  simp [Except.mapError, SourceFault.renumbered, UndefinedName.renumbered, moved]

end Karel.Language
