import Karel.Language.Machine
import Karel.Proofs.Stopping

/-!
# Runs on two states

The machine only acts through the words of its vocabulary and through the observer. So if two
vocabularies and two observers act alike on related states, all runs of a program act alike:
`Program.run_simulates`. This is how a run on one kind of state is compared with a run on another.
Commands of one vocabulary may also be cut short where those of the other go on. Then a run is alike
to the end, or cut short after a step that the other run makes too: `Program.run_simulatesUntil`.
-/

namespace Karel

variable {σ τ ε δ : Type}

/-- Vocabularies with the same names whose acts are alike. -/
structure Vocabulary.Simulates (related : σ → τ → Prop) (causes : ε → δ → Prop)
    (vocabulary : Vocabulary σ ε) (image : Vocabulary τ δ) : Prop where
  command : ∀ name : String, Option.Rel (Act.Simulates related causes)
    vocabulary.commands[name]? image.commands[name]?
  condition : ∀ name : String, Option.Rel (Act.Simulates related causes)
    vocabulary.conditions[name]? image.conditions[name]?

/-- Vocabularies with the same names whose conditions are alike, and whose commands are alike or cut
short. -/
structure Vocabulary.SimulatesUntil (related : σ → τ → Prop) (causes : ε → δ → Prop)
    (stops : ε → Prop) (vocabulary : Vocabulary σ ε) (image : Vocabulary τ δ) : Prop where
  command : ∀ name : String, Option.Rel (Act.SimulatesUntil related causes stops)
    vocabulary.commands[name]? image.commands[name]?
  condition : ∀ name : String, Option.Rel (Act.Simulates related causes)
    vocabulary.conditions[name]? image.conditions[name]?

/-- The same fault, or acts that failed with causes that correspond. -/
inductive RunFailure.Alike (causes : ε → δ → Prop) : RunFailure ε → RunFailure δ → Prop
  | fault {fault} : Alike causes (.fault fault) (.fault fault)
  | act {cause reason} (corresponds : causes cause reason) : Alike causes (.act cause) (.act reason)

/-- Failures that are alike up to equal causes are equal. -/
theorem RunFailure.Alike.eq {failure other : RunFailure ε}
    (alike : RunFailure.Alike (· = ·) failure other) : failure = other := by
  cases alike with
  | fault => rfl
  | act same => rw [same]

/-- A run stops if an act stops it. -/
inductive RunFailure.Stops (stops : ε → Prop) : RunFailure ε → Prop
  | act {cause} (stopped : stops cause) : Stops stops (.act cause)

theorem RunFailure.Stops.not {stops : ε → Prop} (never : ∀ cause, ¬ stops cause)
    (failure : RunFailure ε) : ¬ RunFailure.Stops stops failure := by
  rintro ⟨stopped⟩
  exact never _ stopped

namespace Vocabulary

/-- Commands that are alike are cut short by nothing. -/
theorem Simulates.unstopped {related : σ → τ → Prop} {causes : ε → δ → Prop}
    {vocabulary : Vocabulary σ ε} {image : Vocabulary τ δ}
    (words : vocabulary.Simulates related causes image) :
    vocabulary.SimulatesUntil related causes (fun _ => False) image where
  command name := by
    have alike := words.command name
    generalize vocabulary.commands[name]? = left at alike ⊢
    generalize image.commands[name]? = right at alike ⊢
    cases alike with
    | none => exact .none
    | some alike => exact .some alike.until
  condition := words.condition

variable {α β : Type} {words : Std.ExtTreeMap String α} {name : String}

/-- Words correspond to what is made of them if each word does. -/
theorem rel_map_right {corresponds : α → β → Prop} {change : String → α → β}
    (each : ∀ name word, corresponds word (change name word)) (name : String) :
    Option.Rel corresponds words[name]? (words.map change)[name]? := by
  rw [Std.ExtTreeMap.getElem?_map]
  cases words[name]? with
  | none => exact .none
  | some word => exact .some (each name word)

/-- What is made of words that correspond corresponds if it does so word by word. -/
theorem rel_map {γ ζ : Type} {others : Std.ExtTreeMap String β} {corresponds : α → β → Prop}
    {images : γ → ζ → Prop} {change : String → α → γ} {otherChange : String → β → ζ}
    (alike : Option.Rel corresponds words[name]? others[name]?)
    (each : ∀ word other, corresponds word other →
      images (change name word) (otherChange name other)) :
    Option.Rel images (words.map change)[name]? (others.map otherChange)[name]? := by
  rw [Std.ExtTreeMap.getElem?_map, Std.ExtTreeMap.getElem?_map]
  generalize words[name]? = left at alike ⊢
  generalize others[name]? = right at alike ⊢
  cases alike with
  | none => exact .none
  | some corresponds => exact .some (each _ _ corresponds)

end Vocabulary

namespace Program

variable {related : σ → τ → Prop} {causes : ε → δ → Prop} {stops : ε → Prop}
  {vocabulary : Vocabulary σ ε} {image : Vocabulary τ δ} {observe : Step → Act σ ε Unit}
  {watch : Step → Act τ δ Unit}

/-- Of the words, only the conditions matter. -/
theorem resolve_simulates (checks : ∀ name : String, Option.Rel (Act.Simulates related causes)
      vocabulary.conditions[name]? image.conditions[name]?) (statement : Statement) :
    Act.Simulates related (RunFailure.Alike causes) (resolve vocabulary statement)
      (resolve image statement) := by
  cases statement with
  | invoke name => exact .pure name
  | choose condition yes no =>
      have checks := checks condition
      unfold resolve
      dsimp only
      generalize vocabulary.conditions[condition]? = check at checks ⊢
      generalize image.conditions[condition]? = other at checks ⊢
      cases checks with
      | none => exact .throw .fault
      | some alike => exact .bind (.mapError alike fun _ _ => .act) fun _ => .pure _

/-- After a step that is made, the run goes on from what the step leaves. -/
theorem apply_advance_of_next {program : Program} {frame : Frame} {callers rest : List Frame}
    {state after : σ}
    (made : (program.next vocabulary observe (frame :: callers)).apply state = (.ok rest, after))
    (steps : Nat) :
    (program.advance vocabulary observe (steps + 1) (frame :: callers)).apply state =
      (program.advance vocabulary observe steps rest).apply after := by
  simp only [advance]
  rw [Act.apply_bind, made]

section

variable (words : Vocabulary.SimulatesUntil related causes stops vocabulary image)
include words

theorem perform_simulatesUntil (program : Program) (name : String) :
    Act.SimulatesUntil related (RunFailure.Alike causes) (RunFailure.Stops stops)
      (program.perform vocabulary name) (program.perform image name) := by
  have actions := words.command name
  unfold perform
  generalize vocabulary.commands[name]? = action at actions ⊢
  generalize image.commands[name]? = other at actions ⊢
  cases actions with
  | none =>
      cases program.frame? name with
      | none => exact (Act.Simulates.throw .fault).until
      | some frame => exact (Act.Simulates.pure _).until
  | some alike =>
      exact Act.SimulatesUntil.bind_pure (.mapError alike (fun _ _ => .act) fun _ => .act)
        fun _ => none

variable (shows : ∀ step, Act.Simulates related causes (observe step) (watch step))
include shows

theorem next_simulatesUntil (program : Program) (stack : List Frame) :
    Act.SimulatesUntil related (RunFailure.Alike causes) (RunFailure.Stops stops)
      (program.next vocabulary observe stack) (program.next image watch stack) := by
  cases stack with
  | nil => exact (Act.Simulates.pure _).until
  | cons frame callers =>
      simp only [next]
      cases frame.step? callers with
      | none => exact (Act.Simulates.pure _).until
      | some step =>
          refine .bind (.mapError (shows step) fun _ _ => .act) fun _ => ?_
          refine .bind (resolve_simulates words.condition step.statement) fun name => ?_
          exact (perform_simulatesUntil words program name).bind_pure _

/-- The induction is on the number of steps. A step that is cut short is the last one, and the other
run has made it too. -/
theorem advance_simulatesUntil (program : Program) (steps : Nat) (stack : List Frame) {state : σ}
    {other : τ} (states : related state other) :
    Act.Alike related (RunFailure.Alike causes)
        ((program.advance vocabulary observe steps stack).apply state)
        ((program.advance image watch steps stack).apply other) ∨
      ∃ fewer ≤ steps, Act.CutShort related (RunFailure.Stops stops)
        ((program.advance vocabulary observe steps stack).apply state)
        ((program.advance image watch fewer stack).apply other) := by
  induction steps generalizing stack state other with
  | zero => exact .inl (.value states)
  | succ steps inductionHypothesis =>
      cases stack with
      | nil => exact .inl (.value states)
      | cons frame callers =>
          have start := next_simulatesUntil words shows program (frame :: callers) state other states
          rcases made : (program.next image watch (frame :: callers)).apply other with
            ⟨reason | rest, after⟩ <;> rw [made] at start
          · simp only [advance]
            rw [Act.apply_bind, Act.apply_bind, made]
            generalize (program.next vocabulary observe (frame :: callers)).apply state = left
              at start ⊢
            rcases start with results | cut
            · cases results with
              | failure corresponds onward => exact .inl (.failure corresponds onward)
            · cases cut
          · rw [apply_advance_of_next made]
            simp only [advance]
            rw [Act.apply_bind]
            generalize (program.next vocabulary observe (frame :: callers)).apply state = left
              at start ⊢
            rcases start with results | cut
            · cases results with
              | value onward =>
                refine (inductionHypothesis rest onward).imp_right ?_
                rintro ⟨fewer, sooner, cut⟩
                exact ⟨fewer + 1, Nat.succ_le_succ sooner, apply_advance_of_next made fewer ▸ cut⟩
            · refine .inr ⟨1, Nat.le_add_left 1 steps, ?_⟩
              rw [apply_advance_of_next made]
              cases cut with
              | intro stopped onward => exact .intro stopped onward

/-- Runs with vocabularies and observers that act alike are alike to the end, or up to the step in
which the first one is cut short. -/
theorem run_simulatesUntil (program : Program) (steps : Nat) {state : σ} {other : τ}
    (states : related state other) :
    Act.Alike related (RunFailure.Alike causes)
        ((program.run vocabulary observe steps).apply state)
        ((program.run image watch steps).apply other) ∨
      ∃ fewer ≤ steps, Act.CutShort related (RunFailure.Stops stops)
        ((program.run vocabulary observe steps).apply state)
        ((program.run image watch fewer).apply other) := by
  unfold run
  cases program.start with
  | error fault => exact .inl (.failure .fault states)
  | ok stack => exact advance_simulatesUntil words shows program steps stack states

end

variable (words : Vocabulary.Simulates related causes vocabulary image)
include words

/-- Commands that are alike are performed alike: nothing cuts them short. -/
theorem perform_simulates (program : Program) (name : String) :
    Act.Simulates related (RunFailure.Alike causes) (program.perform vocabulary name)
      (program.perform image name) :=
  (perform_simulatesUntil words.unstopped program name).simulates (RunFailure.Stops.not fun _ => id)

/-- Runs with vocabularies and observers that act alike are alike. -/
theorem run_simulates
    (shows : ∀ step, Act.Simulates related causes (observe step) (watch step))
    (program : Program) (steps : Nat) :
    Act.Simulates related (RunFailure.Alike causes) (program.run vocabulary observe steps)
      (program.run image watch steps) := by
  intro state other states
  rcases run_simulatesUntil words.unstopped shows program steps states with
    alike | ⟨fewer, sooner, cut⟩
  · exact alike
  · obtain ⟨failure, stopped⟩ := cut.exists_stops
    exact absurd stopped (RunFailure.Stops.not (fun _ => id) failure)

end Program

end Karel
