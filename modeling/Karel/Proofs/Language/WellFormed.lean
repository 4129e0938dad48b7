import Karel.Language.Machine
import Karel.Proofs.Language.Rules

/-!
# Programs that were read

A program that was read from a text has no empty procedure, chooses only by known conditions and
goes on only with commands and procedures: `Program.WellFormed`. References to procedures are checked
at the end of the text, so `Draft.Sound` says for a text under way that every name in a procedure is
a command or is still on the list of references. `Language.wellFormed_of_read` joins the two.
-/

namespace Karel

variable {σ ε : Type}

/-- The names that a statement can go on with. -/
def Statement.targets : Statement → List String
  | .invoke name => [name]
  | .choose _ yes no => [yes, no]

/-- A statement asks a known condition and goes on with a command or with a name that `defined`
holds of. -/
structure Statement.Resolved (vocabulary : Vocabulary σ ε) (defined : String → Prop)
    (statement : Statement) : Prop where
  condition_known : ∀ {condition yes no}, statement = .choose condition yes no →
    vocabulary.isCondition condition = true
  target_known : ∀ name ∈ statement.targets, vocabulary.isCommand name = true ∨ defined name

theorem Statement.Resolved.mono {vocabulary : Vocabulary σ ε} {defined defined' : String → Prop}
    {statement : Statement} (resolved : statement.Resolved vocabulary defined)
    (wider : ∀ name, defined name → defined' name) : statement.Resolved vocabulary defined' where
  condition_known := resolved.condition_known
  target_known name member := (resolved.target_known name member).imp_right (wider name)

/-- No procedure is empty. -/
def Program.Filled (program : Program) : Prop :=
  ∀ (name : String) (body : List Statement), program.procedures[name]? = some body → body ≠ []

/-- A program that can not ask for anything that is not there. -/
structure Program.WellFormed (vocabulary : Vocabulary σ ε) (program : Program) : Prop where
  filled : program.Filled
  resolved : ∀ {name : String} {body : List Statement},
    program.procedures[name]? = some body → ∀ statement ∈ body,
      statement.Resolved vocabulary fun target => program.procedures.contains target = true
  main_defined : ∀ {name : String}, program.main = some name → program.procedures.contains name = true

namespace Language

variable {vocabulary : Vocabulary σ ε}

/-- Whether a name is on the list of references. -/
def Draft.Mentions (draft : Draft) (name : String) : Prop :=
  ∃ reference ∈ draft.references, reference.name = name

/-- References are only added. -/
theorem Draft.Mentions.append {draft next : Draft} {added : List Reference}
    (grown : next.references = draft.references ++ added) (name : String)
    (mentioned : draft.Mentions name) : next.Mentions name := by
  obtain ⟨reference, member, same⟩ := mentioned
  exact ⟨reference, by rw [grown]; exact List.mem_append_left _ member, same⟩

/-- What holds of a text under way: closed procedures are not empty, and what is in a procedure is
known or still to be looked up, as is the procedure to run. -/
structure Draft.Sound (vocabulary : Vocabulary σ ε) (draft : Draft) : Prop where
  filled : draft.program.Filled
  closed : ∀ {name : String} {body : List Statement},
    draft.program.procedures[name]? = some body →
      ∀ statement ∈ body, statement.Resolved vocabulary draft.Mentions
  opened : ∀ {name : String} {body : List Statement}, draft.open? = some (name, body) →
    ∀ statement ∈ body, statement.Resolved vocabulary draft.Mentions
  main : ∀ {name : String}, draft.program.main = some name → draft.Mentions name

theorem Draft.sound_empty : ({} : Draft).Sound vocabulary where
  filled _ _ found := by simp [Program.empty] at found
  closed found := by simp [Program.empty] at found
  opened found := by simp at found
  main found := by simp [Program.empty] at found

/-- Every target that is no command becomes a reference. -/
theorem mem_calls_of_not_command {line : Nat} {names : List String} {name : String}
    (member : name ∈ names) (unknown : vocabulary.isCommand name = false) :
    ⟨name, line⟩ ∈ calls vocabulary line names := by
  simp only [calls, List.mem_map, List.mem_filter]
  exact ⟨name, ⟨member, by simp [unknown]⟩, rfl⟩

/-- A draft stays sound when a statement is added whose condition is known and whose targets are
entered as references. -/
theorem Draft.Sound.push {draft : Draft} (sound : draft.Sound vocabulary) {line : Nat}
    {name : String} {body : List Statement} (inside : draft.open? = some (name, body))
    {statement : Statement}
    (known : ∀ {condition yes no}, statement = .choose condition yes no →
      vocabulary.isCondition condition = true) :
    (draft.push name body statement (calls vocabulary line statement.targets)).Sound vocabulary := by
  have wider : ∀ target, draft.Mentions target →
      (draft.push name body statement (calls vocabulary line statement.targets)).Mentions target :=
    Draft.Mentions.append rfl
  refine ⟨sound.filled, ?_, ?_, fun found => wider _ (sound.main found)⟩
  · intro other otherBody found inner member
    exact (sound.closed found inner member).mono wider
  · intro other otherBody found inner member
    cases found
    rcases List.mem_append.mp member with earlier | last
    · exact (sound.opened inside inner earlier).mono wider
    · cases List.mem_singleton.mp last
      refine ⟨known, fun target member => ?_⟩
      cases command : vocabulary.isCommand target with
      | true => exact .inl rfl
      | false =>
          exact .inr ⟨_, List.mem_append_right _ (mem_calls_of_not_command member command), rfl⟩

/-- Every rule for a line keeps a draft sound. -/
theorem Draft.Sound.reads {draft next : Draft} {line : Nat} {words : List String}
    (sound : draft.Sound vocabulary) (reads : draft.Reads vocabulary line words next) :
    next.Sound vocabulary := by
  cases reads with
  | blank => exact sound
  | opens outside fresh =>
      refine ⟨sound.filled, sound.closed, ?_, sound.main⟩
      intro name body found inner member
      cases found
      cases member
  | @starts main outside first =>
      have wider : ∀ target, draft.Mentions target →
          ({ draft with
            program := { draft.program with main := some main }
            references := draft.references ++ [⟨main, line⟩] } : Draft).Mentions target :=
        Draft.Mentions.append rfl
      refine ⟨sound.filled, ?_, ?_, ?_⟩
      · intro name body found inner member
        exact (sound.closed found inner member).mono wider
      · intro name body found inner member
        exact (sound.opened found inner member).mono wider
      · intro name found
        cases found
        exact ⟨_, List.mem_append_right _ List.mem_cons_self, rfl⟩
  | @closes name body inside filled plain =>
      refine ⟨?_, ?_, ?_, sound.main⟩
      · intro other otherBody found
        rw [Std.ExtTreeMap.getElem?_insert] at found
        split at found
        next =>
          cases found
          exact filled
        next => exact sound.filled _ _ found
      · intro other otherBody found
        rw [Std.ExtTreeMap.getElem?_insert] at found
        split at found
        next =>
          cases found
          exact sound.opened inside
        next => exact sound.closed found
      · intro other otherBody found
        cases found
  | chooses inside free known =>
      refine sound.push inside ?_
      intro condition yes no same
      cases same
      exact known
  | invokes inside free plain =>
      refine sound.push inside ?_
      intro condition yes no same
      cases same

/-- A text that follows the rules keeps its draft sound. -/
theorem Draft.Sound.readsAll {line : Nat} {lines : List (List String)} {draft next : Draft}
    (sound : draft.Sound vocabulary) (reads : Draft.ReadsAll vocabulary line lines draft next) :
    next.Sound vocabulary := by
  induction reads with
  | nil => exact sound
  | cons first others inductionHypothesis => exact inductionHypothesis (sound.reads first)

/-- A program that was read with a vocabulary can ask for nothing that is not there. -/
theorem wellFormed_of_read {source : String} {program : Program}
    (accepted : read vocabulary source = .ok program) : program.WellFormed vocabulary := by
  obtain ⟨draft, lines, _, rfl, defined⟩ := read_eq_ok_iff.mp accepted
  have sound := Draft.sound_empty.readsAll lines
  have lookup : ∀ name, draft.Mentions name → draft.program.procedures.contains name = true := by
    rintro name ⟨reference, member, rfl⟩
    exact defined reference member
  refine ⟨sound.filled, ?_, fun found => lookup _ (sound.main found)⟩
  intro name body found statement member
  exact (sound.closed found statement member).mono lookup

/-- The text of a program that walks to a wall and puts a beeper for each step, on its way back
through the calls. -/
def walkSource : String :=
  "DEFINE walk\n IFWALL left step\nEND\nDEFINE step\n move\n walk\n put\nEND\nRUN walk"

theorem exists_of_isOk {result : Except SourceFault Program} (readable : result.isOk = true) :
    ∃ program, result = .ok program := by
  cases result with
  | error fault => cases readable
  | ok program => exact ⟨program, rfl⟩

theorem exists_read_walkSource :
    ∃ program, read (Vocabulary.standard : Vocabulary World Refusal) walkSource = .ok program :=
  exists_of_isOk (by decide +kernel)

end Language

end Karel
