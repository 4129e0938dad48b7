import Karel.Language.Source
import Mathlib.Data.List.Basic

/-!
# The rules of program text

`Draft.Reads` lists what a line of a program text can do when it is not in error: six rules, one for
each kind of line. `Draft.ReadsAll` puts them together for a text. `read_eq_ok_iff` says that a text
is read exactly if its lines follow the rules, the last procedure is closed and every reference is
to a procedure, so later arguments about texts go through the rules and not through the reader.
-/

namespace Karel.Language

variable {σ ε : Type} {vocabulary : Vocabulary σ ε}

/-- What a line that is not in error does to a draft. -/
inductive Draft.Reads (vocabulary : Vocabulary σ ε) (line : Nat) (draft : Draft) :
    List String → Draft → Prop
  | blank : Reads vocabulary line draft [] draft
  | opens {name} (outside : draft.open? = none)
      (fresh : draft.program.procedures.contains name = false) :
      Reads vocabulary line draft ["define", name] { draft with open? := some (name, []) }
  | starts {name} (outside : draft.open? = none) (first : draft.program.main = none) :
      Reads vocabulary line draft ["run", name] { draft with
        program := { draft.program with main := some name }
        references := draft.references ++ [⟨name, line⟩] }
  | closes {name body} (inside : draft.open? = some (name, body)) (filled : body ≠ [])
      (plain : vocabulary.isCondition "end" = false) :
      Reads vocabulary line draft ["end"] { draft with
        program := { draft.program with procedures := draft.program.procedures.insert name body }
        open? := none }
  | chooses {name body condition yes no} (inside : draft.open? = some (name, body))
      (free : condition ≠ "define" ∧ condition ≠ "run")
      (known : vocabulary.isCondition condition = true) :
      Reads vocabulary line draft [condition, yes, no]
        (draft.push name body (.choose condition yes no) (calls vocabulary line [yes, no]))
  | invokes {name body invoked} (inside : draft.open? = some (name, body))
      (free : invoked ≠ "define" ∧ invoked ≠ "run" ∧ invoked ≠ "end")
      (plain : vocabulary.isCondition invoked = false) :
      Reads vocabulary line draft [invoked]
        (draft.push name body (.invoke invoked) (calls vocabulary line [invoked]))

/-- A line has one, two or three words, as its first word says. -/
theorem expectedWords_cases (vocabulary : Vocabulary σ ε) (keyword : String) :
    ((keyword = "define" ∨ keyword = "run") ∧ expectedWords vocabulary keyword = 2) ∨
    ((keyword ≠ "define" ∧ keyword ≠ "run") ∧
      ((vocabulary.isCondition keyword = true ∧ expectedWords vocabulary keyword = 3) ∨
        (vocabulary.isCondition keyword = false ∧ expectedWords vocabulary keyword = 1))) := by
  unfold expectedWords
  by_cases keywords : keyword = "define" ∨ keyword = "run"
  · exact .inl ⟨keywords, if_pos keywords⟩
  · right
    rw [if_neg keywords]
    cases known : vocabulary.isCondition keyword <;> simpa using keywords

/-- A line between procedures succeeds by opening a procedure or by naming the one to run. -/
theorem Draft.reads_of_declare {draft next : Draft} {line : Nat} {keyword : String}
    {rest : List String} (outside : draft.open? = none)
    (read : draft.declare line (keyword :: rest) = .ok next) :
    draft.Reads vocabulary line (keyword :: rest) next := by
  unfold Draft.declare at read
  split at read
  next name equal =>
    split at read
    next => cases read
    next fresh =>
      cases read
      rw [equal]
      exact .opens outside (Bool.eq_false_iff.mpr fresh)
  next name equal =>
    split at read
    next => cases read
    next first =>
      cases read
      rw [equal]
      exact .starts outside (Option.not_isSome_iff_eq_none.mp first)
  next => cases read
  next equal => cases equal

/-- A line of a procedure with the right number of words succeeds by closing the procedure or by
adding a statement to it. -/
theorem Draft.reads_of_readBody {draft next : Draft} {line : Nat} {name keyword : String}
    {body : List Statement} {rest : List String} (inside : draft.open? = some (name, body))
    (count : (keyword :: rest).length = expectedWords vocabulary keyword)
    (read : draft.readBody vocabulary line name body (keyword :: rest) = .ok next) :
    draft.Reads vocabulary line (keyword :: rest) next := by
  have arity := expectedWords_cases vocabulary keyword
  rw [← count] at arity
  unfold Draft.readBody at read
  split at read
  next => cases read
  next => cases read
  next equal =>
    cases equal
    split at read
    next => cases read
    next filled =>
      cases read
      rcases arity with ⟨_, two⟩ | ⟨_, ⟨_, three⟩ | ⟨plain, _⟩⟩
      · simp at two
      · simp at three
      · exact .closes inside (fun empty => filled (by rw [empty, List.isEmpty_nil])) plain
  next condition yes no _ _ equal =>
    cases equal
    cases read
    rcases arity with ⟨_, two⟩ | ⟨free, ⟨known, _⟩ | ⟨_, one⟩⟩
    · simp at two
    · exact .chooses inside free known
    · simp at one
  next invoked _ _ notEnd equal =>
    cases equal
    cases read
    rcases arity with ⟨_, two⟩ | ⟨free, ⟨_, three⟩ | ⟨plain, _⟩⟩
    · simp at two
    · simp at three
    · exact .invokes inside ⟨free.1, free.2, fun same => notEnd (by rw [same])⟩ plain
  next notDefine notRun _ notThree notOne =>
    -- No keyword has any other number of words.
    rcases arity with ⟨rfl | rfl, _⟩ | ⟨_, ⟨_, three⟩ | ⟨_, one⟩⟩
    · exact (notDefine _ rfl).elim
    · exact (notRun _ rfl).elim
    · obtain ⟨_, yes, no, equal⟩ := List.length_eq_three.mp three
      exact (notThree _ _ _ equal).elim
    · obtain ⟨_, equal⟩ := List.length_eq_one_iff.mp one
      exact (notOne _ equal).elim

/-- Reading a line succeeds exactly by one of the rules. -/
theorem Draft.readLine_eq_ok_iff {draft next : Draft} {line : Nat} {words : List String} :
    draft.readLine vocabulary line words = .ok next ↔ draft.Reads vocabulary line words next := by
  constructor
  · intro read
    cases words with
    | nil =>
        cases read
        exact .blank
    | cons keyword rest =>
        simp only [Draft.readLine] at read
        split at read
        next => cases read
        next count =>
          split at read
          next outside => exact reads_of_declare outside read
          next name body inside => exact reads_of_readBody inside (not_not.mp count) read
  · intro reads
    cases reads with
    | blank => rfl
    | opens outside fresh =>
        simp [Draft.readLine, Draft.declare, expectedWords, outside, fresh]
    | starts outside first =>
        simp [Draft.readLine, Draft.declare, expectedWords, outside, first]
    | closes inside filled plain =>
        simp [Draft.readLine, Draft.readBody, expectedWords, inside, filled, plain]
    | chooses inside free known =>
        simp [Draft.readLine, Draft.readBody, expectedWords, inside, free, known]
    | invokes inside free plain =>
        simp [Draft.readLine, Draft.readBody, expectedWords, inside, free, plain]

/-- Lines that follow the rules one after the other, from the given line number on. -/
inductive Draft.ReadsAll (vocabulary : Vocabulary σ ε) :
    Nat → List (List String) → Draft → Draft → Prop
  | nil {line draft} : ReadsAll vocabulary line [] draft draft
  | cons {line words rest draft middle next} (first : Draft.Reads vocabulary line draft words middle)
      (others : ReadsAll vocabulary (line + 1) rest middle next) :
      ReadsAll vocabulary line (words :: rest) draft next

/-- Reading lines succeeds exactly if they follow the rules. -/
theorem Draft.readLines_eq_ok_iff {line : Nat} {lines : List (List String)} {draft next : Draft} :
    Draft.readLines vocabulary line lines draft = .ok next ↔
      Draft.ReadsAll vocabulary line lines draft next := by
  induction lines generalizing line draft with
  | nil =>
      constructor
      · intro read
        cases read
        exact .nil
      · intro reads
        cases reads
        rfl
  | cons words rest inductionHypothesis =>
      rw [Draft.readLines]
      constructor
      · intro read
        split at read
        next => cases read
        next middle first =>
          exact .cons (readLine_eq_ok_iff.mp first) (inductionHypothesis.mp read)
      · intro reads
        cases reads with
        | cons first others =>
            rw [readLine_eq_ok_iff.mpr first]
            exact inductionHypothesis.mpr others

/-- Entering a use never leaves the list of undefined names empty. -/
theorem addUndefined_ne_nil (names : List UndefinedName) (reference : Reference) :
    addUndefined names reference ≠ [] := by
  unfold addUndefined
  split
  next used =>
    intro empty
    rw [List.map_eq_nil_iff.mp empty] at used
    cases used
  next => exact List.append_ne_nil_of_right_ne_nil _ (List.cons_ne_nil _ _)

/-- No undefined name is found exactly if every reference is to a procedure. -/
theorem undefinedNames_eq_nil_iff {program : Program} {references : List Reference} :
    undefinedNames program references = [] ↔
      ∀ reference ∈ references, program.procedures.contains reference.name = true := by
  have grows : ∀ (entries : List Reference) (names : List UndefinedName),
      entries.foldl addUndefined names = [] ↔ entries = [] ∧ names = [] := by
    intro entries
    induction entries with
    | nil => simp
    | cons reference rest inductionHypothesis =>
        intro names
        simp [inductionHypothesis, addUndefined_ne_nil]
  unfold undefinedNames
  rw [grows]
  simp [List.filter_eq_nil_iff]

/-- A text can end exactly where no procedure is open and every reference is to a procedure. -/
theorem Draft.finish_eq_ok_iff {draft : Draft} {program : Program} :
    draft.finish = .ok program ↔ draft.open? = none ∧ draft.program = program ∧
      ∀ reference ∈ draft.references, draft.program.procedures.contains reference.name = true := by
  rw [← undefinedNames_eq_nil_iff]
  unfold Draft.finish
  split
  next inside => simp [inside]
  next outside =>
    split
    next resolved => simp [outside, resolved]
    next unresolved =>
      refine iff_of_false (fun ended => nomatch ended) ?_
      rintro ⟨_, _, resolved⟩
      exact unresolved resolved

/-- A text is read exactly if its lines follow the rules from the empty draft to one where the text
can end. -/
theorem read_eq_ok_iff {source : String} {program : Program} :
    read vocabulary source = .ok program ↔
      ∃ draft, Draft.ReadsAll vocabulary 1 ((Text.lines source.toList).map lineWords) {} draft ∧
        draft.open? = none ∧ draft.program = program ∧
        ∀ reference ∈ draft.references,
          draft.program.procedures.contains reference.name = true := by
  unfold read readWords
  constructor
  · intro accepted
    split at accepted
    next => cases accepted
    next draft lines =>
      exact ⟨draft, Draft.readLines_eq_ok_iff.mp lines, Draft.finish_eq_ok_iff.mp accepted⟩
  · rintro ⟨draft, lines, finished⟩
    rw [Draft.readLines_eq_ok_iff.mpr lines]
    exact Draft.finish_eq_ok_iff.mpr finished

end Karel.Language
