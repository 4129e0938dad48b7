import Karel.Proofs.Language.Grammar
import Mathlib.Data.List.Induction

/-!
# References

Which names a line uses that have to be procedures is seen from its words alone. `textReferences`
lists them for a whole text, in its order and with the numbers of their lines, and
`Outline.Shapes.forall_defines_iff` says that all of them are blocks exactly if the names that the
items use are resolved. `undefinedNames_eq` is what is reported of the others: each name once, in the
order of the first uses, with the number of the line of every use.
-/

namespace Karel.Language

variable {σ ε : Type} {vocabulary : Vocabulary σ ε}

/-- The names that a line uses and that have to be procedures: the procedure to run, and what a
statement goes on with unless it is a command. -/
def referenceNames (vocabulary : Vocabulary σ ε) : List String → List String
  | ["run", name] => [name]
  | [_, yes, no] => [yes, no].filter fun name => !vocabulary.isCommand name
  | [name] => if name = "end" then [] else [name].filter fun name => !vocabulary.isCommand name
  | _ => []

/-- The references of a line with the given number. -/
def lineReferences (vocabulary : Vocabulary σ ε) (line : Nat) (words : List String) :
    List Reference :=
  (referenceNames vocabulary words).map fun name => ⟨name, line⟩

/-- The references of a text, in its order. -/
def textReferences (vocabulary : Vocabulary σ ε) (text : List (List String)) : List Reference :=
  (text.zipIdx 1).flatMap fun (words, line) => lineReferences vocabulary line words

/-- Those of the references that are to no block. -/
def unresolvedUses (items : List Item) (references : List Reference) : List Reference :=
  references.filter fun reference => reference.name ∉ blockNames items

/-- The used names, each once and in the order of the first uses, with the line of every use. -/
def collectUses (uses : List Reference) : List UndefinedName :=
  (uses.map Reference.name).eraseDups.map fun name =>
    ⟨name, (uses.filter (·.name == name)).map Reference.line⟩

theorem textReferences_concat (text : List (List String)) (words : List String) :
    textReferences vocabulary (text ++ [words]) =
      textReferences vocabulary text ++ lineReferences vocabulary (text.length + 1) words := by
  simp [textReferences, List.zipIdx_append, Nat.add_comm]

/-- The names of the references, without the lines they are on. -/
theorem map_name_textReferences (text : List (List String)) :
    (textReferences vocabulary text).map Reference.name =
      text.flatMap (referenceNames vocabulary) := by
  induction text using List.reverseRecOn with
  | nil => rfl
  | append_singleton text words inductionHypothesis =>
      rw [textReferences_concat, List.map_append, inductionHypothesis, List.flatMap_append]
      simp [lineReferences, Function.comp_def]

/-- A blank line has no references. -/
theorem flatMap_referenceNames_filter (text : List (List String)) :
    (text.filter (· ≠ [])).flatMap (referenceNames vocabulary) =
      text.flatMap (referenceNames vocabulary) := by
  induction text with
  | nil => rfl
  | cons words rest inductionHypothesis =>
      cases words with
      | nil => simpa [referenceNames] using inductionHypothesis
      | cons keyword others => simpa using inductionHypothesis

/-- A statement refers to what it goes on with, unless that is a command. -/
theorem referenceNames_words {statement : Statement} (shaped : statement.Shaped vocabulary) :
    referenceNames vocabulary statement.words =
      statement.targets.filter fun name => !vocabulary.isCommand name := by
  cases statement with
  | invoke name =>
      have free : name ≠ "end" := fun same => shaped.1 (by simp [same])
      simp [Statement.words, Statement.targets, referenceNames, free]
  | choose condition yes no => simp [Statement.words, Statement.targets, referenceNames]

/-- The references of an item are to the procedure to run, or what the statements go on with. -/
theorem mem_references_lines_iff {outline : Outline} (shaped : outline.Shaped vocabulary)
    {item : Item} (member : item ∈ outline.items) {target : String} :
    target ∈ item.lines.flatMap (referenceNames vocabulary) ↔
      (item = .run target ∨ ∃ name body, item = .block name body ∧ ∃ statement ∈ body,
        target ∈ statement.targets ∧ vocabulary.isCommand target = false) := by
  cases item with
  | run name =>
      have names : referenceNames vocabulary ["run", name] = [name] := rfl
      simp only [Item.lines, List.flatMap_cons, List.flatMap_nil, names, List.append_nil,
        List.mem_singleton, Item.run.injEq, reduceCtorEq, false_and, exists_false, or_false]
      exact eq_comm
  | block name body =>
      have closed := shaped.closed member
      have ends : referenceNames vocabulary ["end"] = [] := rfl
      have opens : referenceNames vocabulary ["define", name] = [] := rfl
      simp only [Item.lines, blockLines, List.flatMap_append, List.flatMap_cons, opens, ends,
        List.flatMap_nil, List.append_nil, List.nil_append, List.mem_flatMap, List.mem_map,
        reduceCtorEq, false_or, Item.block.injEq]
      constructor
      · rintro ⟨_, ⟨statement, inside, rfl⟩, used⟩
        rw [referenceNames_words (closed statement inside), List.mem_filter] at used
        exact ⟨name, body, ⟨rfl, rfl⟩, statement, inside, used.1, by simpa using used.2⟩
      · rintro ⟨_, _, ⟨rfl, rfl⟩, statement, inside, target, unknown⟩
        refine ⟨_, ⟨statement, inside, rfl⟩, ?_⟩
        rw [referenceNames_words (closed statement inside), List.mem_filter]
        exact ⟨target, by simp [unknown]⟩

/-- All references of a text without an open block are to blocks exactly if the names that its items
use are resolved. -/
theorem Outline.Shapes.forall_defines_iff {items : List Item} {text : List (List String)}
    (shapes : (⟨items, none⟩ : Outline).Shapes vocabulary text) :
    (∀ reference ∈ textReferences vocabulary text, Defines items reference.name) ↔
      Resolved vocabulary items := by
  have names : ∀ target, target ∈ (textReferences vocabulary text).map Reference.name ↔
      ∃ item ∈ items, target ∈ item.lines.flatMap (referenceNames vocabulary) := by
    intro target
    rw [map_name_textReferences, ← flatMap_referenceNames_filter, shapes.lines_eq]
    simp only [Outline.lines, Outline.openLines, List.append_nil, List.flatMap_assoc,
      List.mem_flatMap]
  constructor
  · intro defined
    have known : ∀ target, (∃ item ∈ items,
        target ∈ item.lines.flatMap (referenceNames vocabulary)) → Defines items target := by
      intro target used
      obtain ⟨reference, member, rfl⟩ := List.mem_map.mp ((names target).mpr used)
      exact defined reference member
    refine ⟨fun name member => ?_, fun name body member statement inside target goal => ?_⟩
    · exact known name ⟨_, member, (mem_references_lines_iff shapes.shaped member).mpr (.inl rfl)⟩
    · cases command : vocabulary.isCommand target with
      | true => exact .inl rfl
      | false =>
          refine .inr (known target ⟨_, member, ?_⟩)
          exact (mem_references_lines_iff shapes.shaped member).mpr
            (.inr ⟨name, body, rfl, statement, inside, goal, command⟩)
  · intro resolved reference member
    obtain ⟨item, inItems, used⟩ := (names reference.name).mp (List.mem_map_of_mem member)
    rcases (mem_references_lines_iff shapes.shaped inItems).mp used with
      rfl | ⟨name, body, rfl, statement, inside, target, unknown⟩
    · exact resolved.main_defined _ inItems
    · rcases resolved.target_known name body inItems statement inside _ target with
        command | defined
      · rw [unknown] at command
        cases command
      · exact defined

theorem any_collectUses (uses : List Reference) (name : String) :
    (collectUses uses).any (·.name == name) = true ↔ name ∈ uses.map Reference.name := by
  simp [collectUses, List.mem_eraseDups]

/-- One more use adds its name at the end if it was not used before. -/
theorem eraseDups_concat (names : List String) (name : String) :
    (names ++ [name]).eraseDups =
      if name ∈ names then names.eraseDups else names.eraseDups ++ [name] := by
  rw [List.eraseDups_append]
  split
  next used => simp [List.removeAll, used]
  next unused => simp [List.removeAll, unused, List.eraseDups_cons]

/-- The lines of the uses of a name, after one more use. -/
theorem lines_concat (uses : List Reference) (reference : Reference) (name : String) :
    ((uses ++ [reference]).filter (·.name == name)).map Reference.line =
      (uses.filter (·.name == name)).map Reference.line ++
        if reference.name = name then [reference.line] else [] := by
  by_cases own : reference.name = name <;> simp [own, List.filter_append]

/-- Entering one more use adds its line to the entry of its name, or a new entry at the end. -/
theorem addUndefined_collectUses (uses : List Reference) (reference : Reference) :
    addUndefined (collectUses uses) reference = collectUses (uses ++ [reference]) := by
  have names := eraseDups_concat (uses.map Reference.name) reference.name
  rw [← List.map_singleton, ← List.map_append] at names
  unfold addUndefined
  by_cases used : reference.name ∈ uses.map Reference.name
  · rw [if_pos ((any_collectUses uses reference.name).mpr used), collectUses, collectUses, names,
      if_pos used, List.map_map]
    refine List.map_congr_left fun name _ => ?_
    rw [lines_concat]
    by_cases own : reference.name = name
    · simp [own]
    · simp [own, Ne.symm own]
  · have none : uses.filter (·.name == reference.name) = [] := by
      rw [List.filter_eq_nil_iff]
      intro use member own
      exact used (List.mem_map.mpr ⟨use, member, by simpa using own⟩)
    rw [if_neg (mt (any_collectUses uses reference.name).mp used), collectUses, collectUses, names,
      if_neg used, List.map_append]
    congr 1
    · refine List.map_congr_left fun name member => ?_
      have other : reference.name ≠ name := by
        rintro rfl
        exact used (List.mem_eraseDups.mp member)
      rw [lines_concat, if_neg other, List.append_nil]
    · simp [none]

/-- What is reported is every unresolved use. The induction takes the uses in the order in which they
are entered. -/
theorem foldl_addUndefined (uses : List Reference) :
    uses.foldl addUndefined [] = collectUses uses := by
  induction uses using List.reverseRecOn with
  | nil => rfl
  | append_singleton uses reference inductionHypothesis =>
      rw [List.foldl_append, inductionHypothesis]
      exact addUndefined_collectUses uses reference

/-- The undefined names of a program are the unresolved uses of the items it was read from. -/
theorem undefinedNames_eq {items : List Item} {program : Program}
    (describes : Describes items program) (references : List Reference) :
    undefinedNames program references = collectUses (unresolvedUses items references) := by
  unfold undefinedNames unresolvedUses
  rw [foldl_addUndefined]
  congr 1
  refine List.filter_congr fun reference _ => ?_
  have defined : program.procedures.contains reference.name = true ↔ _ := describes.contains_iff
  rw [defines_iff] at defined
  cases contained : program.procedures.contains reference.name <;> simp_all

end Karel.Language
