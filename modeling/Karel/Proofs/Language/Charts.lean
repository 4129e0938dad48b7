import Karel.Proofs.Language.Evaluation
import Karel.Proofs.Language.Sights

/-!
# Charts of runs

An onlooker is shown every statement before it runs, together with the state, touches nothing, and
decides by all that was shown so far whether the run goes on. What was shown is the chart of the run.
`Program.run_charted` reads it as a history: from the first state on, each statement was executed in
the state that it was shown in and led to the state of the next one, and a run that was stopped came
no further than the last statement of its chart.
-/

namespace Karel

variable {σ τ ε δ α : Type}

/-- The statements that were shown, each with the state that it was shown in. -/
abbrev Chart (σ : Type) := List (Step × σ)

/-- Somebody who looks on, and may stop the run because of what was shown so far. -/
abbrev Onlooker (σ ε : Type) := Chart σ → Except ε Unit

namespace Onlooker

/-- Writes the step on the chart and asks the onlooker about the chart. -/
def watch (onlooker : Onlooker σ ε) (step : Step) : Act (σ × Chart σ) ε Unit :=
  .ofFunction fun (state, chart) =>
    (onlooker (chart ++ [(step, state)]), state, chart ++ [(step, state)])

/-- The onlooker who sees a part of each state. -/
def through (part : τ → σ) (onlooker : Onlooker σ ε) : Onlooker τ ε := fun chart =>
  onlooker (chart.map (Prod.map id part))

/-- The onlooker who remembers nothing and decides by the statement and the state of the moment. -/
def glancing (glance : Step → σ → Except ε Unit) : Onlooker σ ε := fun chart =>
  match chart.getLast? with
  | none => .ok ()
  | some (step, state) => glance step state

theorem glancing_concat (glance : Step → σ → Except ε Unit) (chart : Chart σ) (step : Step)
    (state : σ) : glancing glance (chart ++ [(step, state)]) = glance step state := by
  rw [glancing, List.getLast?_concat]

end Onlooker

/-- The act with a chart beside its state, which it leaves alone. -/
def Act.charted (act : Act σ ε α) : Act (σ × Chart σ) ε α :=
  act.onPart Prod.fst (fun (_, chart) state => (state, chart)) id

/-- The same words with a chart beside the state. -/
def Vocabulary.charted (vocabulary : Vocabulary σ ε) : Vocabulary (σ × Chart σ) ε where
  commands := vocabulary.commands.map fun _ action => action.charted
  conditions := vocabulary.conditions.map fun _ check => check.charted

/-- Runs a program for at most so many steps under the eyes of an onlooker. -/
def Program.charted (program : Program) (vocabulary : Vocabulary σ ε) (onlooker : Onlooker σ ε)
    (steps : Nat) : Act (σ × Chart σ) (RunFailure ε) (List Frame) :=
  program.run vocabulary.charted onlooker.watch steps

/-- A state with one of certain charts beside it. -/
def Charted (charts : Chart σ → Prop) (state : σ) (charted : σ × Chart σ) : Prop :=
  charted.1 = state ∧ charts charted.2

/-- Related states, with related charts beside them. -/
def ChartedAlike (related : σ → τ → Prop) (charts : Chart σ → Chart τ → Prop)
    (left : σ × Chart σ) (right : τ × Chart τ) : Prop :=
  related left.1 right.1 ∧ charts left.2 right.2

theorem Act.simulates_charted (act : Act σ ε α) (charts : Chart σ → Prop) :
    act.Simulates (Charted charts) (· = ·) act.charted := by
  rintro _ ⟨state, chart⟩ ⟨rfl, kept⟩
  rw [charted, apply_onPart]
  dsimp only
  rcases act.apply state with ⟨cause | value, next⟩
  · exact .failure rfl ⟨rfl, kept⟩
  · exact .value ⟨rfl, kept⟩

/-- Acts that are alike stay so with charts beside their states. -/
theorem Act.Simulates.charted {related : σ → τ → Prop} {causes : ε → δ → Prop} {act : Act σ ε α}
    {image : Act τ δ α} (alike : act.Simulates related causes image)
    (charts : Chart σ → Chart τ → Prop) :
    act.charted.Simulates (ChartedAlike related charts) causes image.charted := by
  rintro ⟨state, chart⟩ ⟨other, otherChart⟩ ⟨states, kept⟩
  have inner := alike state other states
  rw [Act.charted, Act.charted, Act.apply_onPart, Act.apply_onPart]
  dsimp only
  generalize act.apply state = left at inner ⊢
  generalize image.apply other = right at inner ⊢
  cases inner with
  | value onward => exact .value ⟨onward, kept⟩
  | failure corresponds onward => exact .failure corresponds ⟨onward, kept⟩

namespace Vocabulary

theorem simulates_charted (vocabulary : Vocabulary σ ε) (charts : Chart σ → Prop) :
    vocabulary.Simulates (Charted charts) (· = ·) vocabulary.charted where
  command := rel_map_right fun _ action => action.simulates_charted charts
  condition := rel_map_right fun _ check => check.simulates_charted charts

/-- Vocabularies that act alike do so with charts beside their states. -/
theorem Simulates.charted {related : σ → τ → Prop} {causes : ε → δ → Prop}
    {vocabulary : Vocabulary σ ε} {image : Vocabulary τ δ}
    (words : vocabulary.Simulates related causes image) (charts : Chart σ → Chart τ → Prop) :
    vocabulary.charted.Simulates (ChartedAlike related charts) causes image.charted where
  command name := rel_map (words.command name) fun _ _ alike => alike.charted charts
  condition name := rel_map (words.condition name) fun _ _ alike => alike.charted charts

end Vocabulary

namespace Program

/-- Finds the name of a statement and performs it. -/
def execute (program : Program) (vocabulary : Vocabulary σ ε) (statement : Statement) :
    Act σ (RunFailure ε) (Option Frame) := do
  let name ← resolve vocabulary statement
  program.perform vocabulary name

/-- From the first state, the statements of the chart were executed one after the other, each in the
state that it was shown in, and this led to the last state. -/
inductive Course (program : Program) (vocabulary : Vocabulary σ ε) (first : σ) :
    Chart σ → σ → Prop
  | start : Course program vocabulary first [] first
  | snoc {chart state step called next} (course : Course program vocabulary first chart state)
      (executed : (program.execute vocabulary step.statement).apply state = (.ok called, next)) :
      Course program vocabulary first (chart ++ [(step, state)]) next

/-- How a run is stopped: it does not start, or the onlooker or the statement itself stops it at the
last statement of its chart. -/
inductive Stopped (program : Program) (vocabulary : Vocabulary σ ε) (onlooker : Onlooker σ ε)
    (first : σ) : RunFailure ε → Chart σ → σ → Prop
  | unstarted {fault} (nowhere : program.start = .error fault) :
      Stopped program vocabulary onlooker first (.fault fault) [] first
  | watched {chart state step cause} (course : Course program vocabulary first chart state)
      (stops : onlooker (chart ++ [(step, state)]) = .error cause) :
      Stopped program vocabulary onlooker first (.act cause) (chart ++ [(step, state)]) state
  | failed {chart state step failure last} (course : Course program vocabulary first chart state)
      (executed : (program.execute vocabulary step.statement).apply state =
        (.error failure, last)) :
      Stopped program vocabulary onlooker first failure (chart ++ [(step, state)]) last

variable {program : Program} {vocabulary : Vocabulary σ ε} {onlooker : Onlooker σ ε}

/-- A step shows its statement and executes it. -/
theorem next_of_step {observe : Step → Act σ ε Unit} {frame : Frame} {callers : List Frame}
    {step : Step} (made : frame.step? callers = some step) :
    program.next vocabulary observe (frame :: callers) = (do
      (observe step).mapError .act
      let called ← program.execute vocabulary step.statement
      pure (called.toList ++ frame.remaining callers)) := by
  simp only [next, made, execute, bind_assoc]

/-- The command that a statement goes on with is refused and changes nothing. -/
def Refuses (vocabulary : Vocabulary σ ε) (statement : Statement) (state : σ) (cause : ε) : Prop :=
  ∃ name action, Chooses vocabulary statement state name state ∧
    vocabulary.commands[name]? = some action ∧ action.apply state = (.error cause, state)

section Questions

variable (conditions : ∀ {name : String} {check}, vocabulary.conditions[name]? = some check →
  ∀ state, check.Ensures state (fun _ next => next = state) fun _ _ => False)
include conditions

/-- If questions are always answered and change nothing, finding the name of a statement changes
nothing, and fails only by a fault of the program. -/
theorem resolve_asks (statement : Statement) (state : σ) :
    (resolve vocabulary statement).Ensures state
      (fun name next => next = state ∧ Chooses vocabulary statement state name state)
      fun failure last => last = state ∧ ∃ fault, failure = .fault fault := by
  cases statement with
  | invoke name => exact .pure ⟨rfl, .invoke⟩
  | choose condition yes no =>
      unfold resolve
      dsimp only
      cases known : vocabulary.conditions[condition]? with
      | none => exact ⟨rfl, _, rfl⟩
      | some check =>
          rcases answered : check.apply state with ⟨cause | holds, next⟩
          · exact ((conditions known state).of_error answered).elim
          · obtain rfl := (conditions known state).of_ok answered
            unfold Act.Ensures
            rw [Act.apply_bind, Act.apply_mapError, answered]
            exact ⟨rfl, .choose known answered⟩

/-- Then a statement does what a command does or nothing at all, and if it fails it does nothing,
because a command was refused or by a fault of the program. -/
theorem execute_ensures {does : σ → σ → Prop} (idle : ∀ state, does state state)
    (commands : ∀ {name : String} {action}, vocabulary.commands[name]? = some action →
      ∀ state, action.Ensures state (fun _ next => does state next) fun _ last => last = state)
    (statement : Statement) (state : σ) :
    (program.execute vocabulary statement).Ensures state (fun _ next => does state next)
      fun failure last => last = state ∧
        ∀ cause, failure = .act cause → Refuses vocabulary statement state cause := by
  have named := (resolve_asks conditions statement state).mono (fun _ _ => id)
    fun failure last fault => show last = state ∧
        ∀ cause, failure = .act cause → Refuses vocabulary statement state cause by
      obtain ⟨rfl, _, rfl⟩ := fault
      exact ⟨rfl, fun _ same => nomatch same⟩
  refine .bind named fun name _ found => ?_
  obtain ⟨rfl, chooses⟩ := found
  unfold perform
  cases known : vocabulary.commands[name]? with
  | some action =>
      refine .bind (.mapError ?_) fun _ _ done => .pure done
      unfold Act.Ensures
      rcases performed : action.apply _ with ⟨cause | _, last⟩
      · obtain rfl := (commands known _).of_error performed
        refine ⟨rfl, fun _ same => ?_⟩
        cases same
        exact ⟨name, action, chooses, known, performed⟩
      · exact (commands known _).of_ok performed
  | none =>
      cases program.frame? name with
      | some frame => exact .pure (idle _)
      | none => exact ⟨rfl, fun _ same => nomatch same⟩

end Questions

/-- With a chart beside the state, a statement is executed in the same way and leaves the chart
alone. -/
theorem execute_charted (statement : Statement) (state : σ) (chart : Chart σ) :
    (program.execute vocabulary.charted statement).Ensures (state, chart)
      (fun called after => after.2 = chart ∧
        (program.execute vocabulary statement).apply state = (.ok called, after.1))
      fun failure after => after.2 = chart ∧
        (program.execute vocabulary statement).apply state = (.error failure, after.1) := by
  have words := vocabulary.simulates_charted (· = chart)
  have alike := Act.Simulates.bind (resolve_simulates words.condition statement)
    (perform_simulates words program) state (state, chart) ⟨rfl, rfl⟩
  change Act.Alike _ _ ((program.execute vocabulary statement).apply state)
    ((program.execute vocabulary.charted statement).apply (state, chart)) at alike
  unfold Act.Ensures
  generalize (program.execute vocabulary statement).apply state = plain at alike ⊢
  generalize (program.execute vocabulary.charted statement).apply (state, chart) = charted
    at alike ⊢
  cases alike with
  | value states => exact ⟨states.2, by rw [states.1]⟩
  | failure corresponds states => exact ⟨states.2, by rw [states.1, corresponds.eq]⟩

/-- One step adds at most one statement to the chart, and executes it. -/
theorem next_charted {first state : σ} {chart : Chart σ}
    (course : program.Course vocabulary first chart state) (stack : List Frame) :
    (program.next vocabulary.charted onlooker.watch stack).Ensures (state, chart)
      (fun _ after => program.Course vocabulary first after.2 after.1)
      fun failure after => program.Stopped vocabulary onlooker first failure after.2 after.1 := by
  cases stack with
  | nil => exact .pure course
  | cons frame callers =>
      cases made : frame.step? callers with
      | none =>
          simp only [next, made]
          exact .pure course
      | some step =>
          rw [next_of_step made]
          have shown : (onlooker.watch step).Ensures (state, chart)
              (fun _ after => after = (state, chart ++ [(step, state)])) fun cause after =>
                program.Stopped vocabulary onlooker first (.act cause) after.2 after.1 := by
            unfold Act.Ensures
            rw [Onlooker.watch, Act.apply_ofFunction]
            dsimp only
            cases answer : onlooker (chart ++ [(step, state)]) with
            | ok _ => rfl
            | error cause => exact .watched course answer
          refine .bind shown.mapError fun _ after seen => ?_
          subst seen
          have executed : (program.execute vocabulary.charted step.statement).Ensures
              (state, chart ++ [(step, state)])
              (fun _ after => program.Course vocabulary first after.2 after.1)
              fun failure after =>
                program.Stopped vocabulary onlooker first failure after.2 after.1 := by
            refine (execute_charted step.statement state _).mono ?_ ?_
            · rintro called ⟨next, _⟩ ⟨rfl, done⟩
              exact .snoc course done
            · rintro failure ⟨last, _⟩ ⟨rfl, refused⟩
              exact .failed course refused
          exact .bind executed fun called after done => .pure done

/-- The induction is on the number of steps; that the chart leads to the state carries it. -/
theorem advance_charted {first state : σ} {chart : Chart σ}
    (course : program.Course vocabulary first chart state) (steps : Nat) (stack : List Frame) :
    (program.advance vocabulary.charted onlooker.watch steps stack).Ensures (state, chart)
      (fun _ after => program.Course vocabulary first after.2 after.1)
      fun failure after => program.Stopped vocabulary onlooker first failure after.2 after.1 := by
  induction steps generalizing state chart stack with
  | zero => exact .pure course
  | succ steps inductionHypothesis =>
      cases stack with
      | nil => exact .pure course
      | cons frame callers =>
          exact .bind (next_charted course _) fun left after kept => inductionHypothesis kept left

/-- The chart of a run leads from the first state to the last one. If the run was stopped, then at
the last statement of its chart. -/
theorem run_charted (program : Program) (vocabulary : Vocabulary σ ε) (onlooker : Onlooker σ ε)
    (steps : Nat) (first : σ) :
    (program.charted vocabulary onlooker steps).Ensures (first, [])
      (fun _ after => program.Course vocabulary first after.2 after.1)
      fun failure after => program.Stopped vocabulary onlooker first failure after.2 after.1 := by
  unfold charted run
  cases started : program.start with
  | error fault => exact .unstarted started
  | ok stack => exact advance_charted .start steps stack

/-- If words act on a part of a state as they do on that part alone, runs with an onlooker who sees
that part are alike, and so are their charts. -/
theorem charted_simulates {part : τ → σ} {image : Vocabulary τ ε}
    (words : image.Simulates (fun state seen => part state = seen) (· = ·) vocabulary)
    (program : Program) (onlooker : Onlooker σ ε) (steps : Nat) :
    (program.charted image (onlooker.through part) steps).Simulates
      (ChartedAlike (fun state seen => part state = seen)
        fun chart shown => chart.map (Prod.map id part) = shown) (· = ·)
      (program.charted vocabulary onlooker steps) := by
  have shows : ∀ step, Act.Simulates (ChartedAlike (fun state seen => part state = seen)
      fun chart shown => chart.map (Prod.map id part) = shown) (· = ·)
      ((onlooker.through part).watch step) (onlooker.watch step) := by
    rintro step ⟨state, chart⟩ ⟨_, _⟩ ⟨rfl, rfl⟩
    rw [Onlooker.watch, Onlooker.watch, Act.apply_ofFunction, Act.apply_ofFunction]
    dsimp only
    have shown : (chart ++ [(step, state)]).map (Prod.map id part) =
        chart.map (Prod.map id part) ++ [(step, part state)] := List.map_append
    rw [Onlooker.through, shown]
    cases onlooker (chart.map (Prod.map id part) ++ [(step, part state)]) with
    | ok _ => exact .value ⟨rfl, shown⟩
    | error cause => exact .failure rfl ⟨rfl, shown⟩
  exact (run_simulates (words.charted _) shows program steps).mono fun _ _ => RunFailure.Alike.eq

/-- A run with an observer who only looks at the state of the moment is its charted run without the
chart. -/
theorem run_eq_charted {observe : Step → Act σ ε Unit}
    (looks : ∀ step state, ((observe step).apply state).2 = state) (program : Program)
    (vocabulary : Vocabulary σ ε) (steps : Nat) (state : σ) :
    (program.run vocabulary observe steps).apply state = Prod.map id Prod.fst
      ((program.charted vocabulary (.glancing fun step state => ((observe step).apply state).1)
        steps).apply (state, [])) := by
  have shows : ∀ step, (observe step).Simulates (Charted fun _ => True) (· = ·)
      (Onlooker.watch (.glancing fun step state => ((observe step).apply state).1) step) := by
    rintro step _ ⟨state, chart⟩ ⟨rfl, _⟩
    have same := looks step state
    rw [Onlooker.watch, Act.apply_ofFunction]
    dsimp only
    rw [Onlooker.glancing_concat]
    generalize (observe step).apply state = seen at same ⊢
    obtain ⟨cause | _, last⟩ := seen
    · exact .failure rfl ⟨same.symm, trivial⟩
    · exact .value ⟨same.symm, trivial⟩
  have alike := run_simulates (vocabulary.simulates_charted fun _ => True) shows program steps
  have results := (alike.mono fun _ _ => RunFailure.Alike.eq) state (state, []) ⟨rfl, trivial⟩
  exact (results.imp fun _ _ => And.left).eq_map

end Program

end Karel
