import Karel.Proofs.Language.References

/-!
# Texts are read by the grammar

Reading a text keeps a draft of the outline of its lines: a line that is read makes the outline
longer, every longer outline comes from reading its last line, and a line that is refused breaks the
outline in the way that is reported. `readLines_eq_ok_iff_shapes` and `Faulty` put this together for
texts, and `read_iff_grammar` is the language: which texts are accepted, as which programs, and
which fault is reported of any other text.
-/

namespace Karel.Language

variable {σ ε : Type} {vocabulary : Vocabulary σ ε}

/-- The program with one more item. -/
def extendProgram (program : Program) : Item → Program
  | .run name => { program with main := some name }
  | .block name body => { program with procedures := program.procedures.insert name body }

/-- The program that is made of items, one after the other. -/
def programOf (items : List Item) : Program := items.foldl extendProgram .empty

theorem programOf_concat (items : List Item) (item : Item) :
    programOf (items ++ [item]) = extendProgram (programOf items) item := by
  rw [programOf, List.foldl_append]
  rfl

/-- The items describe the program that is made of them, if no name is used twice. -/
theorem describes_programOf {items : List Item} (one_main : (mains items).length ≤ 1)
    (names_nodup : (blockNames items).Nodup) : Describes items (programOf items) := by
  induction items using List.reverseRecOn with
  | nil => exact ⟨by simp [programOf, Program.empty], by simp [programOf, Program.empty]⟩
  | append_singleton items item inductionHypothesis =>
      rw [programOf_concat]
      cases item with
      | run name =>
          have first : mains items = [] := by simpa using one_main
          have before := inductionHypothesis (by simp [first]) (by simpa using names_nodup)
          refine ⟨fun other => ?_, fun other body => by simp [extendProgram, before.procedures]⟩
          have unnamed : Item.run other ∉ items := by
            rw [← mem_mains_iff, first]
            exact List.not_mem_nil
          simp [extendProgram, unnamed, eq_comm]
      | block name body =>
          rw [blockNames_concat_block, List.nodup_append] at names_nodup
          have before := inductionHypothesis (by simpa using one_main) names_nodup.1
          refine ⟨fun other => by simp [extendProgram, before.main], fun other otherBody => ?_⟩
          simp only [extendProgram, Std.ExtTreeMap.getElem?_insert, Std.LawfulEqCmp.compare_eq_iff_eq,
            List.mem_append, List.mem_singleton, Item.block.injEq]
          by_cases same : name = other
          · subst same
            have fresh : Item.block name otherBody ∉ items := by
              intro member
              exact names_nodup.2.2 name (defines_iff.mp ⟨_, member⟩) name (by simp) rfl
            simp [fresh, eq_comm]
          · simp [same, Ne.symm same, before.procedures]

namespace Outline

/-- What reading keeps of an outline: its program, the block without an end, and the references. -/
def draft (outline : Outline) (references : List Reference) : Draft :=
  ⟨programOf outline.items, outline.open?, references⟩

variable {outline longer : Outline}

theorem Shaped.describes (shaped : outline.Shaped vocabulary) :
    Describes outline.items (programOf outline.items) :=
  describes_programOf shaped.one_main (List.nodup_append.mp shaped.names_nodup).1

theorem draft_started (items : List Item) (name : String) (references : List Reference) :
    (⟨items ++ [.run name], none⟩ : Outline).draft references =
      ⟨{ programOf items with main := some name }, none, references⟩ := by
  rw [draft, programOf_concat]
  rfl

theorem draft_closed (items : List Item) (name : String) (body : List Statement)
    (references : List Reference) :
    (⟨items ++ [.block name body], none⟩ : Outline).draft references =
      ⟨{ programOf items with procedures := (programOf items).procedures.insert name body }, none,
        references⟩ := by
  rw [draft, programOf_concat]
  rfl

/-- A line that is read makes the outline longer by this line, unless it is blank. -/
theorem Shaped.of_reads (shaped : outline.Shaped vocabulary) {references : List Reference}
    {line : Nat} {words : List String} {next : Draft}
    (reads : (outline.draft references).Reads vocabulary line words next) :
    ∃ longer : Outline, longer.Shaped vocabulary ∧
      longer.lines = outline.lines ++ [words].filter (· ≠ []) ∧
      next = longer.draft (references ++ lineReferences vocabulary line words) := by
  have describes := shaped.describes
  obtain ⟨items, open?⟩ := outline
  cases reads with
  | blank => exact ⟨⟨items, open?⟩, shaped, by simp, by simp [lineReferences, referenceNames]⟩
  | @opens name outside fresh =>
      obtain rfl : open? = none := outside
      have unused : ¬ Defines items name := by
        rw [← describes.contains_iff]
        exact Bool.eq_false_iff.mp fresh
      refine ⟨⟨items, some (name, [])⟩, shaped_opened_iff.mpr ⟨shaped, unused⟩,
        lines_opened items name, ?_⟩
      simp [draft, lineReferences, referenceNames]
  | @starts name outside first =>
      obtain rfl : open? = none := outside
      have unnamed : mains items = [] := by
        refine List.eq_nil_iff_forall_not_mem.mpr fun other member => ?_
        have named := (describes.main other).mpr (mem_mains_iff.mp member)
        rw [show (programOf items).main = none from first] at named
        cases named
      refine ⟨⟨items ++ [.run name], none⟩, shaped_started_iff.mpr ⟨shaped, unnamed⟩,
        lines_started items name, ?_⟩
      rw [draft_started]
      rfl
  | @closes name body inside nonempty plain =>
      obtain rfl : open? = some (name, body) := inside
      refine ⟨⟨items ++ [.block name body], none⟩, shaped_closed_iff.mpr ⟨shaped, nonempty⟩,
        lines_closed items name body, ?_⟩
      rw [draft_closed]
      simp [draft, lineReferences, referenceNames]
  | @chooses name body condition yes no inside free known =>
      obtain rfl : open? = some (name, body) := inside
      have legal : (Statement.choose condition yes no).Shaped vocabulary := known
      refine ⟨⟨items, some (name, body ++ [.choose condition yes no])⟩,
        shaped_pushed_iff.mpr ⟨shaped, legal⟩, lines_pushed items name body _, ?_⟩
      simp [draft, Draft.push, lineReferences, referenceNames, calls]
  | @invokes name body invoked inside free plain =>
      obtain rfl : open? = some (name, body) := inside
      have legal : (Statement.invoke invoked).Shaped vocabulary := ⟨by simp [free], plain⟩
      refine ⟨⟨items, some (name, body ++ [.invoke invoked])⟩,
        shaped_pushed_iff.mpr ⟨shaped, legal⟩, lines_pushed items name body _, ?_⟩
      simp [draft, Draft.push, lineReferences, referenceNames, calls, free]

variable (plain : ∀ keyword ∈ ["define", "run", "end"], vocabulary.isCondition keyword = false)
include plain

/-- The last line of an outline is one that is read after the lines before it. -/
theorem Shaped.exists_before (shaped : longer.Shaped vocabulary) {text : List (List String)}
    {words : List String} (written : longer.lines = text ++ [words]) :
    ∃ outline : Outline, outline.Shaped vocabulary ∧ outline.lines = text ∧
      ∀ references line, (outline.draft references).Reads vocabulary line words
        (longer.draft (references ++ lineReferences vocabulary line words)) := by
  obtain ⟨items, _ | ⟨name, body⟩⟩ := longer
  · rcases items.eq_nil_or_concat with rfl | ⟨items, item, rfl⟩
    · simp [lines, openLines] at written
    · rw [List.concat_eq_append] at shaped written ⊢
      cases item with
      | run name =>
          rw [lines_started, List.append_singleton_inj] at written
          obtain ⟨rfl, rfl⟩ := written
          obtain ⟨before, unnamed⟩ := shaped_started_iff.mp shaped
          refine ⟨_, before, rfl, fun references line => ?_⟩
          rw [draft_started]
          exact .starts rfl (before.describes.main_eq_none unnamed)
      | block name body =>
          rw [lines_closed, List.append_singleton_inj] at written
          obtain ⟨rfl, rfl⟩ := written
          obtain ⟨before, nonempty⟩ := shaped_closed_iff.mp shaped
          refine ⟨_, before, rfl, fun references line => ?_⟩
          have none : lineReferences vocabulary line ["end"] = [] := by
            simp [lineReferences, referenceNames]
          rw [draft_closed, none, List.append_nil]
          exact .closes rfl nonempty (plain "end" (by simp))
  · rcases body.eq_nil_or_concat with rfl | ⟨body, statement, rfl⟩
    · rw [lines_opened, List.append_singleton_inj] at written
      obtain ⟨rfl, rfl⟩ := written
      obtain ⟨before, unused⟩ := shaped_opened_iff.mp shaped
      refine ⟨_, before, rfl, fun references line => ?_⟩
      have fresh : (programOf items).procedures.contains name = false := by
        rw [Bool.eq_false_iff, ne_eq, before.describes.contains_iff]
        exact unused
      have none : lineReferences vocabulary line ["define", name] = [] := by
        simp [lineReferences, referenceNames]
      rw [none, List.append_nil]
      exact .opens rfl fresh
    · rw [List.concat_eq_append] at shaped written ⊢
      rw [lines_pushed, List.append_singleton_inj] at written
      obtain ⟨rfl, rfl⟩ := written
      obtain ⟨before, legal⟩ := shaped_pushed_iff.mp shaped
      refine ⟨_, before, rfl, fun references line => ?_⟩
      have targets : lineReferences vocabulary line statement.words =
          calls vocabulary line statement.targets := by
        rw [lineReferences, referenceNames_words legal, calls]
      rw [targets]
      cases statement with
      | invoke invoked =>
          exact .invokes rfl (by simpa using legal.1) legal.2
      | choose condition yes no =>
          have known : vocabulary.isCondition condition = true := legal
          have free : ∀ keyword ∈ ["define", "run", "end"], condition ≠ keyword := by
            rintro keyword member rfl
            rw [plain _ member] at known
            cases known
          exact .chooses rfl ⟨free _ (by simp), free _ (by simp)⟩ known

omit plain in
/-- A line with the right number of words is refused outside a block because it repeats a name or
declares nothing. -/
theorem Shaped.breaks_of_declare (shaped : outline.Shaped vocabulary) {references : List Reference}
    {line : Nat} {keyword : String} {rest : List String} {fault : SourceFault}
    (outside : outline.open? = none)
    (count : (keyword :: rest).length = expectedWords vocabulary keyword)
    (refused : (outline.draft references).declare line (keyword :: rest) = .error fault) :
    outline.Breaks vocabulary line (keyword :: rest) fault := by
  have describes := shaped.describes
  unfold Draft.declare at refused
  split at refused
  next name equal =>
    split at refused
    next defined =>
      cases refused
      rw [equal]
      exact .duplicateProcedure outside (describes.contains_iff.mp defined)
    next => cases refused
  next name equal =>
    split at refused
    next named =>
      cases refused
      obtain ⟨other, named⟩ := Option.isSome_iff_exists.mp named
      rw [equal]
      exact .duplicateRun outside ((describes.main other).mp named)
    next => cases refused
  next word others notDefine notRun equal =>
    cases equal
    cases refused
    refine .unknownDeclaration outside count ⟨?_, ?_⟩
    · rintro rfl
      obtain ⟨name, rfl⟩ := List.length_eq_one_iff.mp (Nat.succ_inj.mp count)
      exact notDefine name rfl rfl
    · rintro rfl
      obtain ⟨name, rfl⟩ := List.length_eq_one_iff.mp (Nat.succ_inj.mp count)
      exact notRun name rfl rfl
  next equal => cases equal

omit plain in
/-- A line with the right number of words is refused inside a block because it is a declaration, or
ends a block that has no statement. -/
theorem breaks_of_readBody {references : List Reference} {line : Nat} {name keyword : String}
    {body : List Statement} {rest : List String} {fault : SourceFault}
    (inside : outline.open? = some (name, body))
    (count : (keyword :: rest).length = expectedWords vocabulary keyword)
    (refused : (outline.draft references).readBody vocabulary line name body (keyword :: rest) =
      .error fault) :
    outline.Breaks vocabulary line (keyword :: rest) fault := by
  have opened : outline.open?.isSome = true := by rw [inside]; rfl
  unfold Draft.readBody at refused
  split at refused
  next others equal =>
    cases equal
    cases refused
    obtain ⟨other, rfl⟩ := List.length_eq_one_iff.mp (Nat.succ_inj.mp count)
    exact .unterminated opened (by simp)
  next others equal =>
    cases equal
    cases refused
    obtain ⟨other, rfl⟩ := List.length_eq_one_iff.mp (Nat.succ_inj.mp count)
    exact .unterminated opened (by simp)
  next equal =>
    split at refused
    next empty =>
      cases refused
      rw [equal]
      rw [List.isEmpty_iff.mp empty] at inside
      exact .emptyProcedure inside
    next => cases refused
  next => cases refused
  next => cases refused
  next => cases refused

/-- A line is refused exactly if it breaks the outline, and the fault says how. -/
theorem Shaped.readLine_eq_error_iff (shaped : outline.Shaped vocabulary)
    {references : List Reference} {line : Nat} {words : List String} {fault : SourceFault} :
    (outline.draft references).readLine vocabulary line words = .error fault ↔
      outline.Breaks vocabulary line words fault := by
  have describes := shaped.describes
  constructor
  · intro refused
    cases words with
    | nil => cases refused
    | cons keyword rest =>
        simp only [Draft.readLine] at refused
        split at refused
        next wrong =>
          cases refused
          exact .wordCount wrong
        next count =>
          split at refused
          next outside => exact shaped.breaks_of_declare outside (not_not.mp count) refused
          next name body inside => exact breaks_of_readBody inside (not_not.mp count) refused
  · intro breaks
    have ends : vocabulary.isCondition "end" = false := plain "end" (by simp)
    cases breaks with
    | wordCount wrong => simp only [Draft.readLine, if_pos wrong]
    | duplicateProcedure outside defined =>
        simp [Draft.readLine, Draft.declare, draft, expectedWords, outside,
          describes.contains_iff.mpr defined]
    | duplicateRun outside named =>
        simp [Draft.readLine, Draft.declare, draft, expectedWords, outside,
          (describes.main _).mpr named]
    | unknownDeclaration outside count unknown =>
        simp [Draft.readLine, Draft.declare, draft, outside, unknown, count]
    | unterminated inside misplaced =>
        obtain ⟨⟨name, body⟩, inside⟩ := Option.isSome_iff_exists.mp inside
        simp only [List.mem_cons, Prod.mk.injEq, List.not_mem_nil, or_false] at misplaced
        rcases misplaced with ⟨rfl, rfl⟩ | ⟨rfl, rfl⟩ <;>
          simp [Draft.readLine, Draft.readBody, draft, expectedWords, inside]
    | emptyProcedure inside =>
        simp [Draft.readLine, Draft.readBody, draft, expectedWords, inside, ends]

end Outline

section Texts

variable {line : Nat} {before after text : List (List String)} {words : List String}
  {first draft : Draft} {fault : SourceFault}

/-- Reading a text and one more line is reading the text and then the line. -/
theorem readLines_concat_eq_ok_iff :
    Draft.readLines vocabulary line (text ++ [words]) first = .ok draft ↔
      ∃ middle, Draft.readLines vocabulary line text first = .ok middle ∧
        middle.readLine vocabulary (line + text.length) words = .ok draft := by
  induction text generalizing line first with
  | nil =>
      simp only [List.nil_append, Draft.readLines, List.length_nil, Nat.add_zero, Except.ok.injEq,
        exists_eq_left']
      cases first.readLine vocabulary line words <;> simp
  | cons other rest inductionHypothesis =>
      simp only [List.cons_append, Draft.readLines, List.length_cons]
      cases first.readLine vocabulary line other with
      | error fault => simp
      | ok middle =>
          simp only [inductionHypothesis]
          rw [Nat.add_right_comm, Nat.add_assoc]

/-- A text is refused at its first line that is refused after the lines before it were read. -/
theorem readLines_eq_error_iff :
    Draft.readLines vocabulary line text first = .error fault ↔
      ∃ before words after middle, text = before ++ words :: after ∧
        Draft.readLines vocabulary line before first = .ok middle ∧
        middle.readLine vocabulary (line + before.length) words = .error fault := by
  induction text generalizing line first with
  | nil => simp [Draft.readLines]
  | cons words rest inductionHypothesis =>
      rw [Draft.readLines]
      cases start : first.readLine vocabulary line words with
      | error cause =>
          constructor
          · intro refused
            cases refused
            exact ⟨[], words, rest, first, rfl, rfl, start⟩
          · rintro ⟨before, other, after, middle, split, read, refused⟩
            cases before with
            | nil =>
                cases split
                cases read
                rw [List.length_nil, Nat.add_zero, start] at refused
                exact refused
            | cons head before =>
                cases split
                rw [Draft.readLines, start] at read
                cases read
      | ok next =>
          dsimp only
          rw [inductionHypothesis]
          constructor
          · rintro ⟨before, other, after, middle, rfl, read, refused⟩
            refine ⟨words :: before, other, after, middle, rfl, ?_, ?_⟩
            · rw [Draft.readLines, start]
              exact read
            · rw [List.length_cons, Nat.add_comm before.length, ← Nat.add_assoc]
              exact refused
          · rintro ⟨before, other, after, middle, split, read, refused⟩
            cases before with
            | nil =>
                cases split
                cases read
                rw [List.length_nil, Nat.add_zero, start] at refused
                cases refused
            | cons head before =>
                cases split
                rw [Draft.readLines, start] at read
                rw [List.length_cons, Nat.add_comm before.length, ← Nat.add_assoc] at refused
                exact ⟨before, other, after, middle, rfl, read, refused⟩

variable (plain : ∀ keyword ∈ ["define", "run", "end"], vocabulary.isCondition keyword = false)
include plain

/-- The lines of a text are read exactly if they are those of an outline, and what is kept of them is
kept of the outline. The induction is on the text from its end. -/
theorem readLines_eq_ok_iff_shapes :
    Draft.readLines vocabulary 1 text {} = .ok draft ↔
      ∃ outline : Outline, outline.Shapes vocabulary text ∧
        draft = outline.draft (textReferences vocabulary text) := by
  induction text using List.reverseRecOn generalizing draft with
  | nil =>
      constructor
      · intro read
        cases read
        exact ⟨⟨[], none⟩, ⟨rfl, Outline.shaped_empty⟩, rfl⟩
      · rintro ⟨⟨items, _ | ⟨name, body⟩⟩, ⟨lines, shaped⟩, rfl⟩
        · rcases items.eq_nil_or_concat with rfl | ⟨items, item, rfl⟩
          · rfl
          · cases item <;> simp [Outline.lines, Item.lines, blockLines] at lines
        · simp [Outline.lines, Outline.openLines, blockLines] at lines
  | append_singleton text words inductionHypothesis =>
      rw [readLines_concat_eq_ok_iff, textReferences_concat, Nat.add_comm 1]
      constructor
      · rintro ⟨middle, read, last⟩
        obtain ⟨outline, ⟨lines, shaped⟩, rfl⟩ := inductionHypothesis.mp read
        obtain ⟨longer, legal, written, rfl⟩ :=
          shaped.of_reads (Draft.readLine_eq_ok_iff.mp last)
        exact ⟨longer, ⟨by rw [List.filter_append, lines, written], legal⟩, rfl⟩
      · rintro ⟨longer, ⟨lines, legal⟩, rfl⟩
        rw [List.filter_append] at lines
        cases words with
        | nil =>
            rw [show [([] : List String)].filter (· ≠ []) = [] by simp, List.append_nil] at lines
            refine ⟨_, inductionHypothesis.mpr ⟨longer, ⟨lines, legal⟩, rfl⟩, ?_⟩
            simp [Draft.readLine, lineReferences, referenceNames]
        | cons keyword rest =>
            rw [show [keyword :: rest].filter (· ≠ []) = [keyword :: rest] by simp] at lines
            obtain ⟨outline, shaped, written, reads⟩ := legal.exists_before plain lines.symm
            exact ⟨_, inductionHypothesis.mpr ⟨outline, ⟨written.symm, shaped⟩, rfl⟩,
              Draft.readLine_eq_ok_iff.mpr (reads _ _)⟩

end Texts

/-- What is reported of a text. The first line that is in error comes before everything else, then a
block without an end, and then the names that are not defined. -/
inductive Faulty (vocabulary : Vocabulary σ ε) (text : List (List String)) : SourceFault → Prop
  | line {before words after fault} {outline : Outline} (split : text = before ++ words :: after)
      (shapes : outline.Shapes vocabulary before)
      (breaks : outline.Breaks vocabulary (before.length + 1) words fault) :
      Faulty vocabulary text fault
  | unterminated {outline : Outline} {name body} (shapes : outline.Shapes vocabulary text)
      (opened : outline.open? = some (name, body)) :
      Faulty vocabulary text (.unterminatedAtEnd name)
  | undefined {items} (shapes : (⟨items, none⟩ : Outline).Shapes vocabulary text)
      (unresolved : ¬ Resolved vocabulary items) :
      Faulty vocabulary text
        (.undefined (collectUses (unresolvedUses items (textReferences vocabulary text))))

/-- Items describe one program only. -/
theorem Describes.unique {items : List Item} {program other : Program}
    (describes : Describes items program) (same : Describes items other) : program = other := by
  obtain ⟨main, procedures⟩ := program
  obtain ⟨otherMain, otherProcedures⟩ := other
  have mains : main = otherMain := by
    refine Option.ext fun name => ?_
    exact (describes.main name).trans (same.main name).symm
  have bodies : procedures = otherProcedures := by
    refine Std.ExtTreeMap.ext_getElem? fun {name} => Option.ext fun body => ?_
    exact (describes.procedures name body).trans (same.procedures name body).symm
  rw [mains, bodies]

namespace Outline

variable {items : List Item} {text : List (List String)}

/-- A text can end after items exactly if the names that they use are resolved. -/
theorem Shapes.finish_eq_ok_iff (shapes : (⟨items, none⟩ : Outline).Shapes vocabulary text)
    {program : Program} :
    ((⟨items, none⟩ : Outline).draft (textReferences vocabulary text)).finish = .ok program ↔
      Resolved vocabulary items ∧ Describes items program := by
  have describes := shapes.shaped.describes
  rw [Draft.finish_eq_ok_iff, ← shapes.forall_defines_iff]
  simp only [← describes.contains_iff]
  constructor
  · rintro ⟨-, rfl, defined⟩
    exact ⟨defined, describes⟩
  · rintro ⟨defined, same⟩
    exact ⟨rfl, describes.unique same, defined⟩

/-- Otherwise the names that are not defined are reported. -/
theorem Shapes.finish_eq_error_iff (shapes : (⟨items, none⟩ : Outline).Shapes vocabulary text)
    {fault : SourceFault} :
    ((⟨items, none⟩ : Outline).draft (textReferences vocabulary text)).finish = .error fault ↔
      ¬ Resolved vocabulary items ∧ fault =
        .undefined (collectUses (unresolvedUses items (textReferences vocabulary text))) := by
  have describes := shapes.shaped.describes
  have names := undefinedNames_eq describes (textReferences vocabulary text)
  have resolved : undefinedNames (programOf items) (textReferences vocabulary text) = [] ↔
      Resolved vocabulary items := by
    rw [undefinedNames_eq_nil_iff, ← shapes.forall_defines_iff]
    simp only [describes.contains_iff]
  rw [← resolved, ← names]
  simp only [Draft.finish, draft]
  cases undefinedNames (programOf items) (textReferences vocabulary text) with
  | nil => simp
  | cons name others => simp [eq_comm]

end Outline

/-- Without keywords among the conditions, a text is accepted exactly if its lines are those of items
that are in their place and use only known names, and then as the program that the items describe.
Of any other text the fault is reported that comes first. -/
theorem read_iff_grammar (vocabulary : Vocabulary σ ε)
    (plain : ∀ keyword ∈ ["define", "run", "end"], vocabulary.isCondition keyword = false)
    (source : String) :
    (∀ program, read vocabulary source = .ok program ↔ ∃ items : List Item,
      (⟨items, none⟩ : Outline).Shapes vocabulary ((Text.lines source.toList).map lineWords) ∧
        Resolved vocabulary items ∧ Describes items program) ∧
      ∀ fault, read vocabulary source = .error fault ↔
        Faulty vocabulary ((Text.lines source.toList).map lineWords) fault := by
  unfold read
  generalize (Text.lines source.toList).map lineWords = text
  unfold readWords
  constructor
  · intro program
    constructor
    · intro accepted
      split at accepted
      next => cases accepted
      next draft lines =>
        obtain ⟨⟨items, open?⟩, shapes, rfl⟩ := (readLines_eq_ok_iff_shapes plain).mp lines
        obtain rfl : open? = none := (Draft.finish_eq_ok_iff.mp accepted).1
        exact ⟨items, shapes, shapes.finish_eq_ok_iff.mp accepted⟩
    · rintro ⟨items, shapes, described⟩
      rw [(readLines_eq_ok_iff_shapes plain).mpr ⟨_, shapes, rfl⟩]
      exact shapes.finish_eq_ok_iff.mpr described
  · intro fault
    constructor
    · intro refused
      split at refused
      next cause lines =>
        cases refused
        obtain ⟨before, words, after, middle, split, start, last⟩ :=
          readLines_eq_error_iff.mp lines
        obtain ⟨outline, shapes, rfl⟩ := (readLines_eq_ok_iff_shapes plain).mp start
        rw [Nat.add_comm, shapes.shaped.readLine_eq_error_iff plain] at last
        exact .line split shapes last
      next draft lines =>
        obtain ⟨⟨items, _ | ⟨name, body⟩⟩, shapes, rfl⟩ :=
          (readLines_eq_ok_iff_shapes plain).mp lines
        · obtain ⟨unresolved, rfl⟩ := shapes.finish_eq_error_iff.mp refused
          exact .undefined shapes unresolved
        · cases refused
          exact .unterminated shapes rfl
    · intro faulty
      cases faulty with
      | @line before words after _ outline split shapes breaks =>
          have start := (readLines_eq_ok_iff_shapes plain).mpr ⟨outline, shapes, rfl⟩
          rw [readLines_eq_error_iff.mpr ⟨before, words, after, _, split, start, by
            rw [Nat.add_comm, shapes.shaped.readLine_eq_error_iff plain]
            exact breaks⟩]
      | @unterminated outline name body shapes opened =>
          rw [(readLines_eq_ok_iff_shapes plain).mpr ⟨outline, shapes, rfl⟩]
          simp only [Draft.finish, Outline.draft, opened]
      | undefined shapes unresolved =>
          rw [(readLines_eq_ok_iff_shapes plain).mpr ⟨_, shapes, rfl⟩]
          exact shapes.finish_eq_error_iff.mpr ⟨unresolved, rfl⟩

/-- What is read has the fault that is found in it. -/
theorem eq_error_of_fault {result : Except SourceFault Program} {fault : SourceFault}
    (found : (match result with
      | .error fault => some fault
      | .ok _ => none) = some fault) : result = .error fault := by
  cases result with
  | error other => exact congrArg _ (Option.some.inj found)
  | ok program => cases found

/-- The walk is made of items whose names are resolved, and a procedure without a statement is
reported at the line that ends it, although there is no procedure to run either. -/
theorem read_iff_grammar_walk :
    (∃ program items, read (Vocabulary.standard : Vocabulary World Refusal) walkSource = .ok program ∧
      (⟨items, none⟩ : Outline).Shapes (Vocabulary.standard : Vocabulary World Refusal)
        ((Text.lines walkSource.toList).map lineWords) ∧
      Resolved (Vocabulary.standard : Vocabulary World Refusal) items ∧ Describes items program) ∧
    Faulty (Vocabulary.standard : Vocabulary World Refusal)
      ((Text.lines "DEFINE a\nEND\nRUN b".toList).map lineWords) (.emptyProcedure 2) := by
  have plain : ∀ keyword ∈ ["define", "run", "end"],
      (Vocabulary.standard : Vocabulary World Refusal).isCondition keyword = false := by
    decide +kernel
  constructor
  · obtain ⟨program, accepted⟩ := exists_read_walkSource
    obtain ⟨items, parts⟩ := ((read_iff_grammar _ plain walkSource).1 program).mp accepted
    exact ⟨program, items, accepted, parts⟩
  · refine ((read_iff_grammar _ plain "DEFINE a\nEND\nRUN b").2 _).mp ?_
    exact eq_error_of_fault (by decide +kernel)

end Karel.Language
