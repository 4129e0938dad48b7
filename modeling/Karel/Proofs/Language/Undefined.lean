import Karel.Proofs.Language.Acceptance
import Mathlib.Data.List.Sort

/-!
# What is reported of undefined names

Which procedures a text defines and which it refers to is seen from the words of its lines. In a text
in which every line is in its place and every procedure is closed, an undefined name is one that is
referred to and that no line defines, before or after. `Reports` says what has to be told of such
names: each of them once, in the order of their first uses, with the line of every use. There is only
one list of which this holds, and `read_eq_undefined_iff` is that it is the one that is reported.
-/

namespace Karel.Language

variable {σ ε : Type} {vocabulary : Vocabulary σ ε} {text : List (List String)}

/-- Whether a line of the text opens a procedure of that name. -/
def Declares (text : List (List String)) (name : String) : Prop := ["define", name] ∈ text

instance (text : List (List String)) (name : String) : Decidable (Declares text name) :=
  inferInstanceAs (Decidable (_ ∈ _))

/-- No line of the text is in error, be it by itself or in its place, and its last procedure is
closed. -/
def Orderly (vocabulary : Vocabulary σ ε) (text : List (List String)) : Prop :=
  ∃ draft, Draft.ReadsAll vocabulary 1 text {} draft ∧ draft.open? = none

/-- The references of a text to procedures that it does not define. -/
def unresolvedReferences (vocabulary : Vocabulary σ ε) (text : List (List String)) :
    List Reference :=
  (textReferences vocabulary text).filter fun reference => ¬ Declares text reference.name

/-- The place of a name among the names of the unresolved references, which is that of the first
reference to it. -/
def firstUse (vocabulary : Vocabulary σ ε) (text : List (List String)) (name : String) : Nat :=
  ((unresolvedReferences vocabulary text).map Reference.name).idxOf name

/-- What a report tells of a text: each name that is used but not defined, once and in the order of
the first uses, with the lines of all uses in the order of the text. -/
structure Reports (vocabulary : Vocabulary σ ε) (text : List (List String))
    (names : List UndefinedName) : Prop where
  once : (names.map UndefinedName.name).Nodup
  complete : ∀ name, name ∈ names.map UndefinedName.name ↔
    name ∈ (textReferences vocabulary text).map Reference.name ∧ ¬ Declares text name
  ordered : names.Pairwise fun earlier later =>
    firstUse vocabulary text earlier.name < firstUse vocabulary text later.name
  lines : ∀ undefined ∈ names, undefined.lines =
    ((textReferences vocabulary text).filter (·.name == undefined.name)).map Reference.line

/-! ## What lines that are in their place leave -/

namespace Draft

variable {draft next : Draft} {line : Nat} {words : List String}

/-- A line adds the references that are seen from its words. -/
theorem Reads.references_eq (reads : draft.Reads vocabulary line words next) :
    next.references = draft.references ++ lineReferences vocabulary line words := by
  cases reads with
  | blank => simp [lineReferences, referenceNames]
  | opens outside fresh => simp [lineReferences, referenceNames]
  | starts outside first => simp [lineReferences, referenceNames]
  | closes inside filled plain => simp [lineReferences, referenceNames]
  | chooses inside free known => simp [push, lineReferences, referenceNames, calls]
  | invokes inside free plain => simp [push, lineReferences, referenceNames, calls, free]

/-- The names of the procedures that were read, also of one that is not closed yet. -/
def Knows (draft : Draft) (name : String) : Prop :=
  draft.program.procedures.contains name = true ∨ ∃ body, draft.open? = some (name, body)

/-- A line makes the name known that it defines. -/
theorem Reads.knows_iff (reads : draft.Reads vocabulary line words next) (name : String) :
    next.Knows name ↔ draft.Knows name ∨ words = ["define", name] := by
  unfold Knows
  cases reads with
  | blank => simp
  | opens outside fresh => simp [outside]
  | starts outside first => simp
  | closes inside filled plain =>
      simp only [Std.ExtTreeMap.contains_insert, inside, Option.some.injEq, Prod.mk.injEq]
      simp [or_comm]
  | chooses inside free known => simp [push, inside]
  | invokes inside free plain => simp [push, inside]

theorem ReadsAll.references_eq (reads : ReadsAll vocabulary line text draft next) :
    next.references = draft.references ++
      (text.zipIdx line).flatMap fun (words, line) => lineReferences vocabulary line words := by
  induction reads with
  | nil => simp
  | cons first others inductionHypothesis =>
      rw [inductionHypothesis, first.references_eq, List.zipIdx_cons, List.flatMap_cons,
        List.append_assoc]

theorem ReadsAll.knows_iff (reads : ReadsAll vocabulary line text draft next) (name : String) :
    next.Knows name ↔ draft.Knows name ∨ Declares text name := by
  unfold Declares
  induction reads with
  | nil => simp
  | cons first others inductionHypothesis =>
      rw [inductionHypothesis, first.knows_iff, or_assoc, List.mem_cons, @eq_comm _ _ ["define", name]]

/-- The undefined names of an orderly text are collected from its unresolved references. -/
theorem ReadsAll.undefinedNames_eq (reads : ReadsAll vocabulary 1 text {} draft)
    (closed : draft.open? = none) :
    undefinedNames draft.program draft.references =
      collectUses (unresolvedReferences vocabulary text) := by
  have references : draft.references = textReferences vocabulary text := reads.references_eq
  have defined : ∀ name, draft.program.procedures.contains name = true ↔ Declares text name := by
    intro name
    have known := reads.knows_iff name
    simpa [Knows, closed, Program.empty] using known
  unfold undefinedNames unresolvedReferences
  rw [foldl_addUndefined, references]
  congr 1
  refine List.filter_congr fun reference _ => ?_
  rw [Bool.eq_iff_iff, Bool.not_eq_true', Bool.eq_false_iff, decide_eq_true_iff, ne_eq, defined]

end Draft

/-! ## The report -/

/-- Names without their repetitions stand in the order of their first places. -/
theorem pairwise_eraseDups (names : List String) :
    names.eraseDups.Pairwise fun earlier later => names.idxOf earlier < names.idxOf later := by
  induction names using List.reverseRecOn with
  | nil => exact .nil
  | append_singleton names name inductionHypothesis =>
      have before : names.eraseDups.Pairwise fun earlier later =>
          (names ++ [name]).idxOf earlier < (names ++ [name]).idxOf later := by
        refine inductionHypothesis.imp_of_mem fun {earlier later} first second less => ?_
        rwa [List.idxOf_append_of_mem (List.mem_eraseDups.mp first),
          List.idxOf_append_of_mem (List.mem_eraseDups.mp second)]
      rw [eraseDups_concat]
      split
      next => exact before
      next unused =>
        refine List.pairwise_append.mpr ⟨before, List.pairwise_singleton _ _, ?_⟩
        intro earlier member _ last
        rw [List.mem_singleton.mp last, List.idxOf_append_of_mem (List.mem_eraseDups.mp member),
          List.idxOf_append_of_notMem unused]
        exact Nat.lt_add_right _ (List.idxOf_lt_length_iff.mpr (List.mem_eraseDups.mp member))

theorem map_name_collectUses (uses : List Reference) :
    (collectUses uses).map UndefinedName.name = (uses.map Reference.name).eraseDups := by
  simp [collectUses, Function.comp_def]

theorem mem_map_name_unresolvedReferences_iff {name : String} :
    name ∈ (unresolvedReferences vocabulary text).map Reference.name ↔
      name ∈ (textReferences vocabulary text).map Reference.name ∧ ¬ Declares text name := by
  simp only [unresolvedReferences, List.mem_map, List.mem_filter, decide_eq_true_eq]
  constructor
  · rintro ⟨reference, ⟨member, unknown⟩, rfl⟩
    exact ⟨⟨reference, member, rfl⟩, unknown⟩
  · rintro ⟨⟨reference, member, rfl⟩, unknown⟩
    exact ⟨reference, ⟨member, unknown⟩, rfl⟩

/-- All references to a name that the text does not define are unresolved. -/
theorem filter_unresolvedReferences {name : String} (unknown : ¬ Declares text name) :
    (unresolvedReferences vocabulary text).filter (·.name == name) =
      (textReferences vocabulary text).filter (·.name == name) := by
  rw [unresolvedReferences, List.filter_filter]
  refine List.filter_congr fun reference _ => ?_
  by_cases same : reference.name = name
  · simp [same, unknown]
  · simp [same]

/-- What is collected from the unresolved references is a report. -/
theorem reports_collectUses (vocabulary : Vocabulary σ ε) (text : List (List String)) :
    Reports vocabulary text (collectUses (unresolvedReferences vocabulary text)) := by
  have ordered := pairwise_eraseDups ((unresolvedReferences vocabulary text).map Reference.name)
  refine ⟨?_, fun name => ?_, ?_, fun undefined member => ?_⟩
  · rw [map_name_collectUses]
    refine List.Pairwise.imp ?_ ordered
    rintro earlier _ less rfl
    exact Nat.lt_irrefl _ less
  · rw [map_name_collectUses, List.mem_eraseDups, mem_map_name_unresolvedReferences_iff]
  · exact List.pairwise_map.mpr ordered
  · obtain ⟨name, used, rfl⟩ := List.mem_map.mp member
    rw [List.mem_eraseDups, mem_map_name_unresolvedReferences_iff] at used
    exact congrArg _ (filter_unresolvedReferences used.2)

namespace Reports

variable {names others : List UndefinedName}

/-- A report follows from its names, which tell the lines. -/
theorem eq_map (reports : Reports vocabulary text names) :
    names = (names.map UndefinedName.name).map fun name => ⟨name,
      ((textReferences vocabulary text).filter (·.name == name)).map Reference.line⟩ := by
  rw [List.map_map]
  refine (List.map_id' names).symm.trans (List.map_congr_left fun undefined member => ?_)
  exact (UndefinedName.mk.injEq _ _ _ _).mpr ⟨rfl, reports.lines undefined member⟩

theorem pairwise_names (reports : Reports vocabulary text names) :
    (names.map UndefinedName.name).Pairwise fun earlier later =>
      firstUse vocabulary text earlier < firstUse vocabulary text later :=
  List.pairwise_map.mpr reports.ordered

/-- There is one report of a text: its names are told, and so is their order. -/
theorem unique (reports : Reports vocabulary text names) (same : Reports vocabulary text others) :
    names = others := by
  have permuted : (names.map UndefinedName.name).Perm (others.map UndefinedName.name) :=
    (List.perm_ext_iff_of_nodup reports.once same.once).mpr fun name =>
      (reports.complete name).trans (same.complete name).symm
  have sorted : names.map UndefinedName.name = others.map UndefinedName.name := by
    refine permuted.eq_of_pairwise ?_ reports.pairwise_names same.pairwise_names
    exact fun _ _ _ _ less more => absurd (Nat.lt_trans less more) (Nat.lt_irrefl _)
  rw [reports.eq_map, same.eq_map, sorted]

/-- There is something to report exactly if some reference is to no procedure of the text. -/
theorem ne_nil_iff (reports : Reports vocabulary text names) :
    names ≠ [] ↔
      ∃ reference ∈ textReferences vocabulary text, ¬ Declares text reference.name := by
  constructor
  · intro nonempty
    obtain ⟨undefined, member⟩ := List.exists_mem_of_ne_nil _ nonempty
    obtain ⟨used, unknown⟩ := (reports.complete _).mp (List.mem_map_of_mem member)
    obtain ⟨reference, inText, same⟩ := List.mem_map.mp used
    exact ⟨reference, inText, same ▸ unknown⟩
  · rintro ⟨reference, member, unknown⟩ rfl
    have reported := (reports.complete _).mpr ⟨List.mem_map_of_mem member, unknown⟩
    cases reported

end Reports

/-! ## Reading -/

variable {draft : Draft} {line : Nat} {names : List UndefinedName}

theorem Draft.declare_ne_undefined {words : List String} :
    draft.declare line words ≠ .error (.undefined names) := by
  intro refused
  unfold declare at refused
  split at refused
  next => split at refused <;> cases refused
  next => split at refused <;> cases refused
  next => cases refused
  next => cases refused

theorem Draft.readBody_ne_undefined {name : String} {body : List Statement} {words : List String} :
    draft.readBody vocabulary line name body words ≠ .error (.undefined names) := by
  intro refused
  unfold readBody at refused
  split at refused
  next => cases refused
  next => cases refused
  next => split at refused <;> cases refused
  next => cases refused
  next => cases refused
  next => cases refused

/-- No line is refused because of an undefined name. -/
theorem Draft.readLine_ne_undefined {words : List String} :
    draft.readLine vocabulary line words ≠ .error (.undefined names) := by
  intro refused
  cases words with
  | nil => cases refused
  | cons keyword rest =>
      simp only [readLine] at refused
      split at refused
      next => cases refused
      next =>
        split at refused
        next => exact declare_ne_undefined refused
        next => exact readBody_ne_undefined refused

/-- A text can end with undefined names exactly if no procedure is open and there are such names. -/
theorem Draft.finish_eq_undefined_iff :
    draft.finish = .error (.undefined names) ↔ draft.open? = none ∧ names ≠ [] ∧
      undefinedNames draft.program draft.references = names := by
  unfold finish
  cases draft.open? with
  | some entry => simp
  | none =>
      dsimp only
      cases undefinedNames draft.program draft.references with
      | nil => simp [eq_comm]
      | cons first others =>
          simp only [Except.error.injEq, SourceFault.undefined.injEq, true_and]
          constructor
          · rintro rfl
            exact ⟨List.cons_ne_nil _ _, rfl⟩
          · exact And.right

/-- Undefined names are reported of orderly texts only, and then those of the unresolved references
if there are any. -/
theorem readWords_eq_undefined_iff :
    readWords vocabulary text = .error (.undefined names) ↔
      Orderly vocabulary text ∧ names ≠ [] ∧
        collectUses (unresolvedReferences vocabulary text) = names := by
  unfold readWords
  constructor
  · intro refused
    split at refused
    next fault lines =>
      cases refused
      obtain ⟨_, _, _, _, _, _, refused⟩ := readLines_eq_error_iff.mp lines
      exact (Draft.readLine_ne_undefined refused).elim
    next draft lines =>
      have reads := Draft.readLines_eq_ok_iff.mp lines
      obtain ⟨closed, nonempty, same⟩ := Draft.finish_eq_undefined_iff.mp refused
      exact ⟨⟨draft, reads, closed⟩, nonempty, (reads.undefinedNames_eq closed).symm.trans same⟩
  · rintro ⟨⟨draft, reads, closed⟩, nonempty, same⟩
    rw [Draft.readLines_eq_ok_iff.mpr reads]
    exact Draft.finish_eq_undefined_iff.mpr
      ⟨closed, nonempty, (reads.undefinedNames_eq closed).trans same⟩

/-- The words of the lines of a program text. -/
def wordsOf (source : String) : List (List String) := (Text.lines source.toList).map lineWords

/-- Whatever the vocabulary, undefined names are reported exactly of the texts of which no line is in
error and no procedure is left open, and which refer to a procedure that they do not define. What is
reported is then the one report of these names. -/
theorem read_eq_undefined_iff (vocabulary : Vocabulary σ ε) (source : String) :
    (∀ names, read vocabulary source = .error (.undefined names) ↔
      Orderly vocabulary (wordsOf source) ∧ names ≠ [] ∧
        Reports vocabulary (wordsOf source) names) ∧
    (Orderly vocabulary (wordsOf source) →
      ((∃ names, read vocabulary source = .error (.undefined names)) ↔
        ∃ reference ∈ textReferences vocabulary (wordsOf source),
          ¬ Declares (wordsOf source) reference.name)) := by
  have reports := reports_collectUses vocabulary (wordsOf source)
  have undefined : ∀ {names}, read vocabulary source = .error (.undefined names) ↔ _ :=
    readWords_eq_undefined_iff
  constructor
  · intro names
    rw [undefined]
    refine and_congr_right fun _ => and_congr_right fun _ => ⟨?_, reports.unique⟩
    rintro rfl
    exact reports
  · intro orderly
    rw [← reports.ne_nil_iff]
    constructor
    · rintro ⟨names, refused⟩
      obtain ⟨-, nonempty, rfl⟩ := undefined.mp refused
      exact nonempty
    · exact fun nonempty => ⟨_, undefined.mpr ⟨orderly, nonempty, rfl⟩⟩

/-- A text whose procedures use each other and two names that it does not define, one of them three
times. -/
def lostSource : String :=
  "RUN start\nDEFINE start\n helper\n IFWALL lost lost # twice\n\n gone\nEND\n" ++
    "DEFINE helper\n Lost\n start\nEND"

/-- The two names are reported with the lines on which they are used, and the others are not. -/
theorem read_eq_undefined_lost :
    Orderly (.standard : Vocabulary World Refusal) (wordsOf lostSource) ∧
    Reports (.standard : Vocabulary World Refusal) (wordsOf lostSource)
      [⟨"lost", [4, 4, 9]⟩, ⟨"gone", [6]⟩] ∧
    ∃ reference ∈ textReferences (.standard : Vocabulary World Refusal) (wordsOf lostSource),
      ¬ Declares (wordsOf lostSource) reference.name := by
  have report : read (.standard : Vocabulary World Refusal) lostSource =
      .error (.undefined [⟨"lost", [4, 4, 9]⟩, ⟨"gone", [6]⟩]) :=
    eq_error_of_fault (by decide +kernel)
  obtain ⟨exactly, some⟩ := read_eq_undefined_iff (.standard : Vocabulary World Refusal) lostSource
  obtain ⟨orderly, -, reports⟩ := (exactly _).mp report
  exact ⟨orderly, reports, (some orderly).mp ⟨_, report⟩⟩

end Karel.Language
