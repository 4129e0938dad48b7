import Karel.Proofs.Language.WellFormed
import Mathlib.Data.List.Nodup

/-!
# The grammar of program text

A program text is a sequence of items: blocks, and a line that names the procedure to run. An
`Outline` is what the lines up to some point consist of, the last block perhaps without its end, and
`Outline.lines` writes it out. `Outline.Shapes` says that the lines of a text are those of an outline
in which everything is in its place, `Outline.Breaks` what is wrong with a line that does not fit
after an outline, and `Resolved` that every name that is used is a command or a block. Nothing here
reads a text.
-/

namespace Karel

variable {σ ε : Type}

/-- The words of the line that a statement stands on. -/
def Statement.words : Statement → List String
  | .invoke name => [name]
  | .choose condition yes no => [condition, yes, no]

/-- A statement that can stand in a block. A choice starts with the name of a condition, and any
other statement is neither such a name nor a keyword. -/
def Statement.Shaped (vocabulary : Vocabulary σ ε) : Statement → Prop
  | .invoke name => name ∉ ["define", "run", "end"] ∧ vocabulary.isCondition name = false
  | .choose condition _ _ => vocabulary.isCondition condition = true

namespace Language

/-- A part of a program text. -/
inductive Item
  /-- The line that names the procedure to run. -/
  | run (name : String)
  /-- A procedure, from its first line to its end. -/
  | block (name : String) (body : List Statement)

/-- The lines of a block without the one that ends it, as their words. -/
def blockLines (name : String) (body : List Statement) : List (List String) :=
  ["define", name] :: body.map Statement.words

namespace Item

/-- The lines of an item, as their words. -/
def lines : Item → List (List String)
  | run name => [["run", name]]
  | block name body => blockLines name body ++ [["end"]]

/-- The name of the procedure to run, if the item gives it. -/
def main? : Item → Option String
  | run name => some name
  | block _ _ => none

/-- The name of the block, if the item is one. -/
def name? : Item → Option String
  | run _ => none
  | block name _ => some name

end Item

/-- The names of procedures to run that the items give. -/
def mains (items : List Item) : List String := items.filterMap Item.main?

/-- The names of the blocks among the items. -/
def blockNames (items : List Item) : List String := items.filterMap Item.name?

@[simp]
theorem mains_concat_run (items : List Item) (name : String) :
    mains (items ++ [.run name]) = mains items ++ [name] := List.filterMap_append

@[simp]
theorem mains_concat_block (items : List Item) (name : String) (body : List Statement) :
    mains (items ++ [.block name body]) = mains items :=
  List.filterMap_append.trans (List.append_nil _)

@[simp]
theorem blockNames_concat_run (items : List Item) (name : String) :
    blockNames (items ++ [.run name]) = blockNames items :=
  List.filterMap_append.trans (List.append_nil _)

@[simp]
theorem blockNames_concat_block (items : List Item) (name : String) (body : List Statement) :
    blockNames (items ++ [.block name body]) = blockNames items ++ [name] := List.filterMap_append

/-- Whether one of the items is a block of that name. -/
def Defines (items : List Item) (name : String) : Prop :=
  ∃ body, .block name body ∈ items

/-- The program that items describe: it runs the procedure that is named, and its procedures are the
blocks, each with exactly the statements of the block. -/
structure Describes (items : List Item) (program : Program) : Prop where
  main : ∀ name : String, program.main = some name ↔ .run name ∈ items
  procedures : ∀ (name : String) (body : List Statement),
    program.procedures[name]? = some body ↔ .block name body ∈ items

/-- Every name that is used is known. The procedure to run has to be a block, and what a statement
goes on with has to be a command or a block. -/
structure Resolved (vocabulary : Vocabulary σ ε) (items : List Item) : Prop where
  main_defined : ∀ name, .run name ∈ items → Defines items name
  target_known : ∀ name body, .block name body ∈ items → ∀ statement ∈ body,
    ∀ target ∈ statement.targets, vocabulary.isCommand target = true ∨ Defines items target

/-- What the lines of a text consist of, up to some line. -/
structure Outline where
  items : List Item
  /-- The name and the statements of the block that has no end yet. -/
  open? : Option (String × List Statement)

namespace Outline

/-- The lines of the block that has no end yet. -/
def openLines : Option (String × List Statement) → List (List String)
  | none => []
  | some (name, body) => blockLines name body

/-- The lines of an outline, as their words. -/
def lines (outline : Outline) : List (List String) :=
  outline.items.flatMap Item.lines ++ openLines outline.open?

/-- Everything is in its place: at most one line names the procedure to run, all blocks have names
of their own, no finished block is empty and every statement can stand in a block. -/
structure Shaped (vocabulary : Vocabulary σ ε) (outline : Outline) : Prop where
  one_main : (mains outline.items).length ≤ 1
  names_nodup : (blockNames outline.items ++ (outline.open?.map Prod.fst).toList).Nodup
  filled : ∀ {name body}, .block name body ∈ outline.items → body ≠ []
  closed : ∀ {name body}, .block name body ∈ outline.items →
    ∀ statement ∈ body, statement.Shaped vocabulary
  opened : ∀ {name body}, outline.open? = some (name, body) →
    ∀ statement ∈ body, statement.Shaped vocabulary

/-- The lines of a text that are not blank are those of the outline, with everything in its
place. -/
structure Shapes (vocabulary : Vocabulary σ ε) (outline : Outline) (text : List (List String)) :
    Prop where
  lines_eq : text.filter (· ≠ []) = outline.lines
  shaped : outline.Shaped vocabulary

/-- What is wrong with a line that can not follow an outline. The number of its words comes first;
all other faults are of lines with the right number of words. -/
inductive Breaks (vocabulary : Vocabulary σ ε) (outline : Outline) (line : Nat) :
    List String → SourceFault → Prop
  | wordCount {keyword rest}
      (wrong : (keyword :: rest).length ≠ expectedWords vocabulary keyword) :
      Breaks vocabulary outline line (keyword :: rest)
        (.wordCount line (expectedWords vocabulary keyword) (keyword :: rest).length)
  | duplicateProcedure {name} (outside : outline.open? = none)
      (defined : Defines outline.items name) :
      Breaks vocabulary outline line ["define", name] (.duplicateProcedure line name)
  | duplicateRun {name other} (outside : outline.open? = none)
      (named : .run other ∈ outline.items) :
      Breaks vocabulary outline line ["run", name] (.duplicateRun line)
  | unknownDeclaration {word rest} (outside : outline.open? = none)
      (count : (word :: rest).length = expectedWords vocabulary word)
      (unknown : word ≠ "define" ∧ word ≠ "run") :
      Breaks vocabulary outline line (word :: rest) (.unknownDeclaration line word)
  | unterminated {name} {keyword shown : String} (inside : outline.open?.isSome = true)
      (misplaced : (keyword, shown) ∈ [("define", "DEFINE"), ("run", "RUN")]) :
      Breaks vocabulary outline line [keyword, name] (.unterminated line shown)
  | emptyProcedure {name} (inside : outline.open? = some (name, [])) :
      Breaks vocabulary outline line ["end"] (.emptyProcedure line)

end Outline

theorem defines_iff {items : List Item} {name : String} :
    Defines items name ↔ name ∈ blockNames items := by
  rw [blockNames, List.mem_filterMap]
  constructor
  · rintro ⟨body, member⟩
    exact ⟨_, member, rfl⟩
  · rintro ⟨item, member, same⟩
    cases item with
    | run other => cases same
    | block other body =>
        cases same
        exact ⟨body, member⟩

theorem mem_mains_iff {items : List Item} {name : String} :
    name ∈ mains items ↔ .run name ∈ items := by
  rw [mains, List.mem_filterMap]
  constructor
  · rintro ⟨item, member, same⟩
    cases item with
    | run other =>
        cases same
        exact member
    | block other body => cases same
  · intro member
    exact ⟨_, member, rfl⟩

/-- A program that items describe has no procedure to run if none is named. -/
theorem Describes.main_eq_none {items : List Item} {program : Program}
    (describes : Describes items program) (unnamed : mains items = []) : program.main = none := by
  refine Option.eq_none_iff_forall_ne_some.mpr fun name named => ?_
  have member := mem_mains_iff.mpr ((describes.main name).mp named)
  rw [unnamed] at member
  cases member

/-- A program that items describe has a procedure of each name that a block defines. -/
theorem Describes.contains_iff {items : List Item} {program : Program}
    (describes : Describes items program) {name : String} :
    program.procedures.contains name = true ↔ Defines items name := by
  rw [Std.ExtTreeMap.contains_eq_isSome_getElem?, Option.isSome_iff_exists]
  exact exists_congr fun body => describes.procedures name body

namespace Outline

variable {vocabulary : Vocabulary σ ε}

theorem shaped_empty : (⟨[], none⟩ : Outline).Shaped vocabulary where
  one_main := by simp [mains]
  names_nodup := by simp [blockNames]
  filled member := nomatch member
  closed member := nomatch member
  opened inside := nomatch inside

theorem lines_opened (items : List Item) (name : String) :
    (⟨items, some (name, [])⟩ : Outline).lines =
      (⟨items, none⟩ : Outline).lines ++ [["define", name]] := by
  simp [lines, openLines, blockLines]

theorem lines_started (items : List Item) (name : String) :
    (⟨items ++ [.run name], none⟩ : Outline).lines =
      (⟨items, none⟩ : Outline).lines ++ [["run", name]] := by
  simp [lines, openLines, Item.lines]

theorem lines_closed (items : List Item) (name : String) (body : List Statement) :
    (⟨items ++ [.block name body], none⟩ : Outline).lines =
      (⟨items, some (name, body)⟩ : Outline).lines ++ [["end"]] := by
  simp [lines, openLines, Item.lines]

theorem lines_pushed (items : List Item) (name : String) (body : List Statement)
    (statement : Statement) :
    (⟨items, some (name, body ++ [statement])⟩ : Outline).lines =
      (⟨items, some (name, body)⟩ : Outline).lines ++ [statement.words] := by
  simp [lines, openLines, blockLines]

theorem shaped_opened_iff {items : List Item} {name : String} :
    (⟨items, some (name, [])⟩ : Outline).Shaped vocabulary ↔
      (⟨items, none⟩ : Outline).Shaped vocabulary ∧ ¬ Defines items name := by
  rw [defines_iff]
  constructor
  · rintro ⟨one_main, names_nodup, filled, closed, -⟩
    have split := List.nodup_append.mp names_nodup
    refine ⟨⟨one_main, by simpa using split.1, filled, closed, nofun⟩, fun member => ?_⟩
    exact split.2.2 name member name (by simp) rfl
  · rintro ⟨⟨one_main, names_nodup, filled, closed, -⟩, fresh⟩
    refine ⟨one_main, ?_, filled, closed, ?_⟩
    · simp only [Option.map_none, Option.toList_none, List.append_nil] at names_nodup
      refine List.nodup_append.mpr ⟨names_nodup, List.nodup_singleton name, ?_⟩
      rintro other member _ last rfl
      rw [List.mem_singleton.mp last] at member
      exact fresh member
    · intro other body inside statement member
      cases inside
      cases member

theorem shaped_started_iff {items : List Item} {name : String} :
    (⟨items ++ [.run name], none⟩ : Outline).Shaped vocabulary ↔
      (⟨items, none⟩ : Outline).Shaped vocabulary ∧ mains items = [] := by
  have blocks : ∀ {other body}, Item.block other body ∈ items ++ [Item.run name] ↔
      Item.block other body ∈ items := by simp
  constructor
  · rintro ⟨one_main, names_nodup, filled, closed, -⟩
    have first : mains items = [] := by simpa using one_main
    exact ⟨⟨by simp [first], by simpa using names_nodup, fun member => filled (blocks.mpr member),
      fun member => closed (blocks.mpr member), nofun⟩, first⟩
  · rintro ⟨⟨-, names_nodup, filled, closed, -⟩, first⟩
    exact ⟨by simp [first], by simpa using names_nodup, fun member => filled (blocks.mp member),
      fun member => closed (blocks.mp member), nofun⟩

theorem shaped_closed_iff {items : List Item} {name : String} {body : List Statement} :
    (⟨items ++ [.block name body], none⟩ : Outline).Shaped vocabulary ↔
      (⟨items, some (name, body)⟩ : Outline).Shaped vocabulary ∧ body ≠ [] := by
  have earlier : ∀ {item}, item ∈ items → item ∈ items ++ [Item.block name body] := fun member =>
    List.mem_append_left _ member
  have last : Item.block name body ∈ items ++ [Item.block name body] := by simp
  constructor
  · rintro ⟨one_main, names_nodup, filled, closed, -⟩
    refine ⟨⟨by simpa using one_main, by simpa using names_nodup,
      fun member => filled (earlier member), fun member => closed (earlier member), ?_⟩,
      filled last⟩
    intro other otherBody inside
    cases inside
    exact closed last
  · rintro ⟨⟨one_main, names_nodup, filled, closed, opened⟩, nonempty⟩
    refine ⟨by simpa using one_main, by simpa using names_nodup, ?_, ?_, nofun⟩
    · intro other otherBody member
      rcases List.mem_append.mp member with before | new
      · exact filled before
      · cases List.mem_singleton.mp new
        exact nonempty
    · intro other otherBody member
      rcases List.mem_append.mp member with before | new
      · exact closed before
      · cases List.mem_singleton.mp new
        exact opened rfl

theorem shaped_pushed_iff {items : List Item} {name : String} {body : List Statement}
    {statement : Statement} :
    (⟨items, some (name, body ++ [statement])⟩ : Outline).Shaped vocabulary ↔
      (⟨items, some (name, body)⟩ : Outline).Shaped vocabulary ∧ statement.Shaped vocabulary := by
  constructor
  · rintro ⟨one_main, names_nodup, filled, closed, opened⟩
    refine ⟨⟨one_main, names_nodup, filled, closed, ?_⟩, opened rfl statement (by simp)⟩
    intro other otherBody inside inner member
    cases inside
    exact opened rfl inner (List.mem_append_left _ member)
  · rintro ⟨⟨one_main, names_nodup, filled, closed, opened⟩, shaped⟩
    refine ⟨one_main, names_nodup, filled, closed, ?_⟩
    intro other otherBody inside inner member
    cases inside
    rcases List.mem_append.mp member with before | new
    · exact opened rfl inner before
    · cases List.mem_singleton.mp new
      exact shaped

end Outline

end Language

end Karel
