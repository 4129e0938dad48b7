import Karel.Language.Vocabulary
import Karel.Proofs.Language.Simulation
import Mathlib.Data.List.Forall2

/-!
# Words that correspond

Two vocabularies that are listed in the same way have the same names, and their acts correspond name
by name if they do so entry by entry. For the usual words it is therefore enough to compare the acts
of driving Karel one with another: `Vocabulary.standard_commands_rel` and
`Vocabulary.standard_conditions_rel`. A vocabulary is forgiving if its commands go on after they
failed.
-/

namespace Karel

variable {σ τ ε δ : Type}

/-- Does what can be done and goes on after a failure. -/
def Act.forgiven (act : Act σ ε Unit) : Act σ ε Unit := do
  let _ ← act.attempt
  pure ()

@[simp]
theorem Act.apply_forgiven (act : Act σ ε Unit) (state : σ) :
    act.forgiven.apply state = (.ok (), (act.apply state).2) := rfl

namespace Vocabulary

/-- The same words, of which no command fails. -/
def forgiving (vocabulary : Vocabulary σ ε) : Vocabulary σ ε :=
  { vocabulary with commands := vocabulary.commands.map fun _ action => action.forgiven }

/-- The words of a list of entries, of which a later one replaces an earlier one. -/
def entered {α : Type} (entries : List (String × α)) : Std.ExtTreeMap String α :=
  entries.foldl (fun words entry => words.insert (Text.Case.lowerString entry.1) entry.2) ∅

theorem commands_ofLists (commands : List (String × Act σ ε Unit))
    (conditions : List (String × Act σ ε Bool)) :
    (ofLists commands conditions).commands = entered commands := by
  have unchanged : ∀ vocabulary : Vocabulary σ ε,
      (conditions.foldl (fun vocabulary entry => vocabulary.setCondition entry.1 entry.2)
        vocabulary).commands = vocabulary.commands := by
    induction conditions with
    | nil => exact fun _ => rfl
    | cons entry rest inductionHypothesis => exact fun _ => inductionHypothesis _
  have grown : ∀ vocabulary : Vocabulary σ ε,
      (commands.foldl (fun vocabulary entry => vocabulary.setCommand entry.1 entry.2)
        vocabulary).commands = commands.foldl
          (fun words entry => words.insert (Text.Case.lowerString entry.1) entry.2)
          vocabulary.commands := by
    induction commands with
    | nil => exact fun _ => rfl
    | cons entry rest inductionHypothesis => exact fun _ => inductionHypothesis _
  exact (unchanged _).trans (grown empty)

theorem conditions_ofLists (commands : List (String × Act σ ε Unit))
    (conditions : List (String × Act σ ε Bool)) :
    (ofLists commands conditions).conditions = entered conditions := by
  have unchanged : ∀ vocabulary : Vocabulary σ ε,
      (commands.foldl (fun vocabulary entry => vocabulary.setCommand entry.1 entry.2)
        vocabulary).conditions = vocabulary.conditions := by
    induction commands with
    | nil => exact fun _ => rfl
    | cons entry rest inductionHypothesis => exact fun _ => inductionHypothesis _
  have grown : ∀ vocabulary : Vocabulary σ ε,
      (conditions.foldl (fun vocabulary entry => vocabulary.setCondition entry.1 entry.2)
        vocabulary).conditions = conditions.foldl
          (fun words entry => words.insert (Text.Case.lowerString entry.1) entry.2)
          vocabulary.conditions := by
    induction conditions with
    | nil => exact fun _ => rfl
    | cons entry rest inductionHypothesis => exact fun _ => inductionHypothesis _
  refine (grown _).trans ?_
  rw [unchanged]
  rfl

/-- Words that were entered under the same names correspond if their entries do. -/
theorem entered_rel {α β : Type} {corresponds : α → β → Prop} {entries : List (String × α)}
    {others : List (String × β)}
    (alike : List.Forall₂ (fun entry other => entry.1 = other.1 ∧ corresponds entry.2 other.2)
      entries others) (name : String) :
    Option.Rel corresponds (entered entries)[name]? (entered others)[name]? := by
  unfold entered
  have start : Option.Rel corresponds (∅ : Std.ExtTreeMap String α)[name]?
      (∅ : Std.ExtTreeMap String β)[name]? := by
    simp
  generalize (∅ : Std.ExtTreeMap String α) = words at start ⊢
  generalize (∅ : Std.ExtTreeMap String β) = otherWords at start ⊢
  induction alike generalizing words otherWords with
  | nil => exact start
  | @cons entry other _ _ first _ inductionHypothesis =>
      refine inductionHypothesis _ _ ?_
      simp only [Std.ExtTreeMap.getElem?_insert, first.1]
      split
      next => exact .some first.2
      next => exact start

/-- The word that does nothing. -/
theorem commands_standard_skip [Drivable σ ε] :
    (standard : Vocabulary σ ε).commands["skip"]? = some (pure ()) := by
  have lower : ∀ word ∈ ["skip", "move", "left", "right", "pick", "put"],
      Text.Case.lowerString word = word := by
    decide +kernel
  simp [standard, commands_ofLists, entered, Std.ExtTreeMap.getElem_insert, lower]

end Vocabulary

/-- Two ways of driving Karel whose acts correspond one by one. -/
structure Drivable.Corresponds [Drivable σ ε] [Drivable τ δ]
    (commands : Act σ ε Unit → Act τ δ Unit → Prop)
    (conditions : Act σ ε Bool → Act τ δ Bool → Prop) : Prop where
  skip : commands (pure ()) (pure ())
  move : commands Drivable.move Drivable.move
  turnLeft : commands Drivable.turnLeft Drivable.turnLeft
  turnRight : commands Drivable.turnRight Drivable.turnRight
  pick : commands Drivable.pick Drivable.pick
  put : commands Drivable.put Drivable.put
  frontIsBlocked : conditions Drivable.frontIsBlocked Drivable.frontIsBlocked
  frontIsTreasure : conditions Drivable.frontIsTreasure Drivable.frontIsTreasure
  beeperIsPresent : conditions Drivable.beeperIsPresent Drivable.beeperIsPresent
  isFacing : ∀ direction, conditions (Drivable.isFacing direction) (Drivable.isFacing direction)

namespace Drivable.Corresponds

variable [Drivable σ ε] [Drivable τ δ] {commands : Act σ ε Unit → Act τ δ Unit → Prop}
  {conditions : Act σ ε Bool → Act τ δ Bool → Prop}

theorem commands_rel (acts : Drivable.Corresponds commands conditions) (name : String) :
    Option.Rel commands (Vocabulary.standard : Vocabulary σ ε).commands[name]?
      (Vocabulary.standard : Vocabulary τ δ).commands[name]? := by
  rw [Vocabulary.standard, Vocabulary.standard, Vocabulary.commands_ofLists,
    Vocabulary.commands_ofLists]
  refine Vocabulary.entered_rel ?_ name
  exact .cons ⟨rfl, acts.skip⟩ (.cons ⟨rfl, acts.move⟩ (.cons ⟨rfl, acts.turnLeft⟩
    (.cons ⟨rfl, acts.turnRight⟩ (.cons ⟨rfl, acts.pick⟩ (.cons ⟨rfl, acts.put⟩ .nil)))))

theorem conditions_rel (acts : Drivable.Corresponds commands conditions) (name : String) :
    Option.Rel conditions (Vocabulary.standard : Vocabulary σ ε).conditions[name]?
      (Vocabulary.standard : Vocabulary τ δ).conditions[name]? := by
  rw [Vocabulary.standard, Vocabulary.standard, Vocabulary.conditions_ofLists,
    Vocabulary.conditions_ofLists]
  refine Vocabulary.entered_rel ?_ name
  exact .cons ⟨rfl, acts.frontIsBlocked⟩ (.cons ⟨rfl, acts.beeperIsPresent⟩
    (.cons ⟨rfl, acts.frontIsTreasure⟩ (.cons ⟨rfl, acts.isFacing _⟩ (.cons ⟨rfl, acts.isFacing _⟩
      (.cons ⟨rfl, acts.isFacing _⟩ (.cons ⟨rfl, acts.isFacing _⟩ .nil))))))

/-- What holds of every way of driving Karel holds of every usual command. -/
theorem of_command {good : Act σ ε Unit → Prop} {goodCheck : Act σ ε Bool → Prop}
    (acts : Drivable.Corresponds (fun action (_ : Act σ ε Unit) => good action)
      fun check (_ : Act σ ε Bool) => goodCheck check) {name : String} {action : Act σ ε Unit}
    (found : (Vocabulary.standard : Vocabulary σ ε).commands[name]? = some action) :
    good action := by
  have entry := acts.commands_rel name
  rw [found] at entry
  cases entry with
  | some holds => exact holds

/-- What holds of every question about Karel holds of every usual condition. -/
theorem of_condition {good : Act σ ε Unit → Prop} {goodCheck : Act σ ε Bool → Prop}
    (acts : Drivable.Corresponds (fun action (_ : Act σ ε Unit) => good action)
      fun check (_ : Act σ ε Bool) => goodCheck check) {name : String} {check : Act σ ε Bool}
    (found : (Vocabulary.standard : Vocabulary σ ε).conditions[name]? = some check) :
    goodCheck check := by
  have entry := acts.conditions_rel name
  rw [found] at entry
  cases entry with
  | some holds => exact holds

end Drivable.Corresponds

end Karel
