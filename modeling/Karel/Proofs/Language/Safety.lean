import Karel.Proofs.Acts
import Karel.Proofs.Language.WellFormed

/-!
# Runs without faults

A program asks for a condition, a command or a procedure by name. `Program.next_ensures` says that
on a stack of frames of a well-formed program every name is found, so a step can only fail because
an act failed. `Program.run_error_cases` carries this through runs of any length from the text that
was read: the only fault left is that the text names no procedure to run.
-/

namespace Karel

variable {σ ε σ₀ ε₀ : Type}

/-- A frame of a procedure of the program. -/
def Frame.Of (program : Program) (frame : Frame) : Prop :=
  program.procedures[frame.procedure]? = some frame.body

/-- What is left of the stack while a statement runs has the procedures it had before. -/
theorem Frame.of_remaining {program : Program} {frame : Frame} {callers : List Frame}
    (top : frame.Of program) (others : ∀ caller ∈ callers, caller.Of program) :
    ∀ caller ∈ frame.remaining callers, caller.Of program := by
  unfold Frame.remaining
  split
  next => exact others
  next =>
    intro caller member
    rcases List.mem_cons.mp member with rfl | earlier
    · exact top
    · exact others caller earlier

/-- The observer, a command or a condition failed with this cause and left this state behind. -/
inductive Vocabulary.FailsWith (vocabulary : Vocabulary σ ε) (observe : Step → Act σ ε Unit)
    (cause : ε) (last : σ) : Prop
  | observer {step state} (failed : (observe step).apply state = (.error cause, last))
  | command {name : String} {action state} (known : vocabulary.commands[name]? = some action)
      (failed : action.apply state = (.error cause, last))
  | condition {name : String} {check state} (known : vocabulary.conditions[name]? = some check)
      (failed : check.apply state = (.error cause, last))

/-- A failure that an act returned, and no fault of the program. -/
def RunFailure.Returned (vocabulary : Vocabulary σ ε) (observe : Step → Act σ ε Unit)
    (failure : RunFailure ε) (last : σ) : Prop :=
  ∃ cause, failure = .act cause ∧ vocabulary.FailsWith observe cause last

/-- Only the names of a vocabulary matter for what it makes of a program. -/
theorem Program.WellFormed.congr {known : Vocabulary σ₀ ε₀} {vocabulary : Vocabulary σ ε}
    {program : Program} (wellFormed : program.WellFormed known)
    (commands : ∀ name, vocabulary.isCommand name = known.isCommand name)
    (conditions : ∀ name, vocabulary.isCondition name = known.isCondition name) :
    program.WellFormed vocabulary where
  filled := wellFormed.filled
  resolved found statement member := by
    have resolved := wellFormed.resolved found statement member
    refine ⟨fun same => ?_, fun name target => ?_⟩
    · rw [conditions]
      exact resolved.condition_known same
    · rw [commands]
      exact resolved.target_known name target
  main_defined := wellFormed.main_defined

namespace Program

variable {program : Program} {vocabulary : Vocabulary σ ε} {observe : Step → Act σ ε Unit}

/-- A resolved statement finds its name, which is one of its targets, or its condition fails. -/
theorem resolve_ensures {defined : String → Prop} {statement : Statement}
    (resolved : statement.Resolved vocabulary defined) (state : σ) :
    (resolve vocabulary statement).Ensures state (fun name _ => name ∈ statement.targets)
      (RunFailure.Returned vocabulary observe) := by
  cases statement with
  | invoke name => exact .pure List.mem_cons_self
  | choose condition yes no =>
      have known := resolved.condition_known rfl
      unfold Vocabulary.isCondition at known
      rw [Std.ExtTreeMap.contains_eq_isSome_getElem?] at known
      obtain ⟨check, found⟩ := Option.isSome_iff_exists.mp known
      simp only [resolve, found]
      refine .bind_of_failures ?_ ?_
      · intro cause last failed
        exact ⟨cause, rfl, .condition found failed⟩
      · intro holds after
        refine .pure ?_
        cases holds <;> simp [Statement.targets]

/-- A name that is known is that of a command, which can fail, or of a procedure to call. -/
theorem perform_ensures {name : String}
    (known : vocabulary.isCommand name = true ∨ program.procedures.contains name = true)
    (state : σ) :
    (program.perform vocabulary name).Ensures state
      (fun called _ => ∀ frame ∈ called, frame.Of program)
      (RunFailure.Returned vocabulary observe) := by
  unfold perform
  cases found : vocabulary.commands[name]? with
  | some action =>
      refine .bind_of_failures ?_ ?_
      · intro cause last failed
        exact ⟨cause, rfl, .command found failed⟩
      · intro _ after
        exact .pure fun frame called => nomatch called
  | none =>
      have defined : program.procedures.contains name = true := by
        rcases known with command | defined
        · unfold Vocabulary.isCommand at command
          rw [Std.ExtTreeMap.contains_eq_isSome_getElem?, found] at command
          cases command
        · exact defined
      rw [Std.ExtTreeMap.contains_eq_isSome_getElem?] at defined
      obtain ⟨body, found⟩ := Option.isSome_iff_exists.mp defined
      simp only [frame?, found, Option.map_some]
      refine .pure fun frame called => ?_
      cases called
      exact found

/-- A step of a well-formed program keeps to its procedures, and only fails as an act failed. -/
theorem next_ensures (wellFormed : program.WellFormed vocabulary) {stack : List Frame}
    (frames : ∀ frame ∈ stack, frame.Of program) (state : σ) :
    (program.next vocabulary observe stack).Ensures state
      (fun left _ => ∀ frame ∈ left, frame.Of program)
      (RunFailure.Returned vocabulary observe) := by
  cases stack with
  | nil => exact .pure frames
  | cons frame callers =>
      have top := frames frame List.mem_cons_self
      have others : ∀ caller ∈ callers, caller.Of program := fun caller member =>
        frames caller (List.mem_cons_of_mem _ member)
      simp only [next]
      cases made : frame.step? callers with
      | none => exact .pure others
      | some step =>
          obtain ⟨statement, found, rfl⟩ := Option.map_eq_some_iff.mp made
          have resolved := wellFormed.resolved top statement (List.mem_of_getElem? found)
          refine .bind_of_failures ?_ ?_
          · intro cause last failed
            exact ⟨cause, rfl, .observer failed⟩
          intro _ seen
          refine .bind (resolve_ensures resolved seen) fun name chosen target => ?_
          refine .bind (perform_ensures (resolved.target_known name target) chosen) ?_
          intro called after callee
          refine .pure fun caller member => ?_
          rcases List.mem_append.mp member with new | old
          · exact callee caller (Option.mem_toList.mp new)
          · exact Frame.of_remaining top others caller old

/-- The induction is on the number of steps; that all frames are of the program is what carries
it. -/
theorem advance_ensures (wellFormed : program.WellFormed vocabulary) (steps : Nat)
    {stack : List Frame} (frames : ∀ frame ∈ stack, frame.Of program) (state : σ) :
    (program.advance vocabulary observe steps stack).Ensures state
      (fun left _ => ∀ frame ∈ left, frame.Of program)
      (RunFailure.Returned vocabulary observe) := by
  induction steps generalizing stack state with
  | zero => exact .pure frames
  | succ steps inductionHypothesis =>
      cases stack with
      | nil => exact .pure frames
      | cons frame callers =>
          exact .bind (next_ensures wellFormed frames state) fun left after kept =>
            inductionHypothesis kept after

/-- A program of which every name is known starts, unless it says not where. -/
theorem start_cases (wellFormed : program.WellFormed vocabulary) :
    (program.main = none ∧ program.start = .error .noRun) ∨
      ∃ frame, program.main.isSome = true ∧ program.start = .ok [frame] ∧ frame.Of program := by
  unfold start
  cases main : program.main with
  | none => exact .inl ⟨rfl, rfl⟩
  | some name =>
      have defined := wellFormed.main_defined main
      rw [Std.ExtTreeMap.contains_eq_isSome_getElem?] at defined
      obtain ⟨body, found⟩ := Option.isSome_iff_exists.mp defined
      simp only [frame?, found, Option.map_some]
      exact .inr ⟨_, rfl, rfl, found⟩

/-- The only fault of a program of which every name is known is that it says not where to start. -/
theorem fault_of_run (wellFormed : program.WellFormed vocabulary) {steps : Nat} {state last : σ}
    {fault : ProgramFault}
    (stopped : (program.run vocabulary observe steps).apply state = (.error (.fault fault), last)) :
    fault = .noRun ∧ program.main = none := by
  unfold run at stopped
  rcases start_cases wellFormed with ⟨main, started⟩ | ⟨frame, -, started, top⟩ <;>
    rw [started] at stopped
  · cases stopped
    exact ⟨rfl, main⟩
  · have ensured : (program.advance vocabulary observe steps [frame]).Ensures state _
        (RunFailure.Returned vocabulary observe) :=
      advance_ensures wellFormed steps (List.forall_mem_singleton.mpr top) state
    obtain ⟨cause, same, -⟩ := ensured.of_error stopped
    cases same

end Program

namespace Language

variable {vocabulary : Vocabulary σ ε}

/-- Whether a line of the text is `RUN` and a name. -/
def DeclaresRun (source : String) : Prop :=
  ∃ line ∈ Text.lines source.toList, ∃ name, lineWords line = ["run", name]

/-- A line names the procedure to run exactly if it is `run` and a name. -/
theorem Draft.Reads.main_isSome_iff {draft next : Draft} {line : Nat} {words : List String}
    (reads : draft.Reads vocabulary line words next) :
    next.program.main.isSome = true ↔
      draft.program.main.isSome = true ∨ ∃ name, words = ["run", name] := by
  cases reads with
  | blank => simp
  | opens outside fresh => simp
  | starts outside first => simp
  | closes inside filled plain => simp
  | chooses inside free known => simp [Draft.push]
  | invokes inside free plain => simp [Draft.push]

theorem Draft.ReadsAll.main_isSome_iff {line : Nat} {lines : List (List String)}
    {draft next : Draft} (reads : Draft.ReadsAll vocabulary line lines draft next) :
    next.program.main.isSome = true ↔
      draft.program.main.isSome = true ∨ ∃ words ∈ lines, ∃ name, words = ["run", name] := by
  induction reads with
  | nil => simp
  | cons first others inductionHypothesis =>
      rw [inductionHypothesis, first.main_isSome_iff, List.exists_mem_cons_iff, or_assoc]

/-- A program that was read knows what to run exactly if its text says so. -/
theorem main_isSome_iff_declaresRun {source : String} {program : Program}
    (accepted : read vocabulary source = .ok program) :
    program.main.isSome = true ↔ DeclaresRun source := by
  obtain ⟨draft, lines, _, rfl, _⟩ := read_eq_ok_iff.mp accepted
  rw [lines.main_isSome_iff]
  constructor
  · rintro (nothing | ⟨words, member, name, same⟩)
    · cases nothing
    · obtain ⟨line, found, rfl⟩ := List.mem_map.mp member
      exact ⟨line, found, name, same⟩
  · rintro ⟨line, found, name, same⟩
    exact .inr ⟨_, List.mem_map_of_mem found, name, same⟩

end Language

/-- A program that was read never goes wrong, with any vocabulary of the same names, on any state,
with any observer and for any number of steps. It lacks a procedure to run exactly if its text
declares none, and every other failure is one that the observer, a command or a condition returned,
with nothing done after it. -/
theorem Program.run_error_cases {known : Vocabulary σ₀ ε₀} {source : String} {program : Program}
    (accepted : Language.read known source = .ok program) (vocabulary : Vocabulary σ ε)
    (commands : ∀ name, vocabulary.isCommand name = known.isCommand name)
    (conditions : ∀ name, vocabulary.isCondition name = known.isCondition name)
    (observe : Step → Act σ ε Unit) (steps : Nat) (state : σ) :
    ((∃ last, (program.run vocabulary observe steps).apply state =
        (.error (.fault .noRun), last)) ↔ ¬ Language.DeclaresRun source) ∧
      ∀ failure last, (program.run vocabulary observe steps).apply state = (.error failure, last) →
        failure = .fault .noRun ∨ ∃ cause, failure = .act cause ∧
          vocabulary.FailsWith observe cause last := by
  have wellFormed := (Language.wellFormed_of_read accepted).congr commands conditions
  rw [← Language.main_isSome_iff_declaresRun accepted]
  unfold run
  rcases start_cases wellFormed with ⟨main, started⟩ | ⟨frame, main, started, top⟩
  · rw [main, started]
    refine ⟨iff_of_true ⟨state, rfl⟩ (by simp), fun failure last failed => .inl ?_⟩
    cases failed
    rfl
  · rw [main, started]
    have ensured : (program.advance vocabulary observe steps [frame]).Ensures state _
        (RunFailure.Returned vocabulary observe) :=
      advance_ensures wellFormed steps (List.forall_mem_singleton.mpr top) state
    refine ⟨iff_of_false ?_ (by simp), fun failure last failed => .inr (ensured.of_error failed)⟩
    rintro ⟨last, failed⟩
    obtain ⟨cause, same, _⟩ := ensured.of_error failed
    cases same

/-- The usual words have the same names on every state. -/
theorem Vocabulary.names_standard [Drivable σ ε] [Drivable σ₀ ε₀] (name : String) :
    (standard : Vocabulary σ ε).isCommand name = (standard : Vocabulary σ₀ ε₀).isCommand name ∧
      (standard : Vocabulary σ ε).isCondition name =
        (standard : Vocabulary σ₀ ε₀).isCondition name := by
  simp [standard, ofLists, setCommand, setCondition, isCommand, isCondition, empty,
    Std.ExtTreeMap.contains_insert]

/-- The walk, read with the words of a bare world, fails behind a window only because it is
refused. -/
theorem Program.run_error_cases_walk :
    ∃ program, Language.read (Vocabulary.standard : Vocabulary World Refusal)
        Language.walkSource = .ok program ∧
      ∀ steps window failure last,
        (program.run (Vocabulary.standard : Vocabulary Window Refusal) (fun _ => pure ())
          steps).apply window = (.error failure, last) →
        failure = .fault .noRun ∨ ∃ cause, failure = .act cause ∧
          Vocabulary.standard.FailsWith (fun _ => pure ()) cause last := by
  obtain ⟨program, accepted⟩ := Language.exists_read_walkSource
  exact ⟨program, accepted, fun steps window => (run_error_cases accepted Vocabulary.standard
    (fun name => (Vocabulary.names_standard name).1)
    (fun name => (Vocabulary.names_standard name).2) (fun _ => pure ()) steps window).2⟩

end Karel
