import Karel.Proofs.Console.Sheet
import Karel.Proofs.Session.Causes
import Karel.Proofs.Session.Quitting
import Karel.Proofs.Session.Tasks
import Karel.Proofs.Window.Refusals

/-!
# Refused commands

A command of a session is refused exactly if the operation that it is, is forbidden in the window. Its
chronicle then begins with the work on the window, which leaves everything in place, and goes on with
texts and keys: no cell of the screen is drawn. All else that a session can be told is never refused,
programs and interactive mode included.
-/

namespace Karel.Session

open Console

variable {σ α : Type}

/-- The operation on the window that a task is, if it is a single one. -/
def Task.operation? : Task → Option Window.Operation
  | move => some .move
  | turnLeft => some .turnLeft
  | turnRight => some .turnRight
  | pick => some .pick
  | put => some .put
  | setBag bag => some (.setBag bag)
  | setTileAhead tile => some (.setTileAhead tile)
  | setBeepersHere count => some (.setBeepersHere count)
  | frontIsBlocked | frontIsTreasure | beeperIsPresent | isFacing _ | setSpeed _ | toggleVerbosity
  | message .. | pause | complete | save _ | resize | runProgram .. | interactive _ => none

/-! ## What is done after a refusal -/

/-- A deed that leaves the window and every cell of the screen alone. -/
def Deed.IsAside : Deed → Prop
  | .drew strokes _ => ∀ stroke ∈ strokes, stroke.IsText
  | .read .. | .noted _ => True
  | .became _ => False

/-- Since the work on the window was done, only texts were shown and keys were read. -/
def Since (next : Window) (log : List Deed) : Prop :=
  ∃ others, log = .became next :: others ∧ ∀ deed ∈ others, deed.IsAside

/-- How a refused command ends: with the refusal, unless the user quits while it is shown or the
screen fails. -/
inductive EndsRefused (refusal : Refusal) : SessionFault → Prop
  | refused : EndsRefused refusal (.refused refusal)
  | quit : EndsRefused refusal .quit
  | broken (fault : DisplayFault) : EndsRefused refusal (.display fault)

/-- A command of a session was refused: the operation was forbidden in the window, the window is left
as it was, and since then no cell of the screen was drawn. -/
structure IsRefused [Screen σ] (command : Command σ Unit) (session : Session σ)
    (operation : Window.Operation) (refusal : Refusal) (final : Session σ) : Prop where
  forbidden : session.window.Forbids operation refusal
  untouched : session.window.Untouched final.window
  aside : ∃ deeds, (∀ deed ∈ deeds, deed.IsAside) ∧
    Chronicle command session (.became final.window :: deeds) (.error (.refused refusal)) final

variable {next : Window} {log : List Deed} {deed : Deed} {refusal : Refusal}

theorem Since.concat (since : Since next log) (aside : deed.IsAside) : Since next (log ++ [deed]) := by
  obtain ⟨others, rfl, quiet⟩ := since
  exact ⟨others ++ [deed], rfl,
    List.forall_mem_append.mpr ⟨quiet, List.forall_mem_singleton.mpr aside⟩⟩

variable [Screen σ] {session : Session σ}

/-- A text on the message line is an aside. -/
theorem reports_showMessage (text : String) (style : MessageStyle) :
    (showMessage text style : Drawing σ Unit).Reports (Since next) fun fault log =>
      EndsRefused refusal (.display fault) ∧ Since next log := by
  intro session past since
  have aside : ∀ outcome, Deed.IsAside (.drew (messageStrokes session text style) outcome) :=
    fun _ stroke member => isText_of_isLine (isLine_of_mem_messageStrokes stroke member)
  exact .draw (draws_message text style) (since.concat (aside _)) fun fault =>
    ⟨.broken fault, since.concat (aside _)⟩

/-- A refusal that is shown until a key is pressed draws no cell, and ends as a refused command may
end. -/
theorem reports_showRefusal (text : String) :
    (showError text : Command σ Unit).Reports (Since next) fun cause log =>
      EndsRefused refusal cause ∧ Since next log := by
  have alerted : (onScreen Screen.alert : Drawing σ Unit).Reports (Since next) fun fault log =>
      EndsRefused refusal (.display fault) ∧ Since next log := by
    intro session past since
    have aside : ∀ outcome, Deed.IsAside (.drew [.alert] outcome) :=
      fun _ => List.forall_mem_singleton.mpr ⟨rfl, fun _ => rfl⟩
    exact .draw (.stroke .alert) (since.concat (aside _)) fun fault =>
      ⟨.broken fault, since.concat (aside _)⟩
  have pressed : (onScreen (Screen.nextKey none) : Drawing σ (Option Key)).Reports (Since next)
      fun fault log => EndsRefused refusal (.display fault) ∧ Since next log :=
    fun _ _ since => .key (fun _ => since.concat trivial) fun fault =>
      ⟨.broken fault, since.concat trivial⟩
  refine (Act.reporting _).bind ((Act.reporting _).mapError alerted fun _ _ => id) fun _ => ?_
  refine (Act.reporting _).bind ((Act.reporting _).mapError ?_ fun _ _ => id) fun key => ?_
  · refine (Act.reporting _).bind (reports_showMessage _ _) fun _ => ?_
    refine (Act.reporting _).bind pressed fun key => ?_
    exact (Act.reporting _).bind (reports_showMessage _ _) fun _ => (Act.reporting _).pure key
  · split
    next => exact (Act.reporting _).throw fun log since => ⟨.quit, since⟩
    next => exact (Act.reporting _).pure ()

/-- A command whose act is refused tells the user and fails. -/
theorem tells_execute (label : String) (changes : Redraw) {act : Act Window Refusal α}
    (refused : act.apply session.window = (.error refusal, next)) :
    (execute label changes act : Command σ α).Tells session [] (fun _ _ => False) fun cause log =>
      EndsRefused refusal cause ∧ Since next log := by
  have worked : (onWindow act : Act (Session σ) Refusal α).Tells session [] (fun _ _ => False)
      fun cause log => cause = refusal ∧ Since next log := by
    refine .window (fun value last applied => ?_) fun cause last applied => ?_
    · rw [refused] at applied
      cases applied
    · cases refused.symm.trans applied
      exact ⟨rfl, [], rfl, List.forall_mem_nil _⟩
  refine .attempt_bind worked (fun _ _ _ => False.elim) ?_
  rintro cause session log ⟨rfl, since⟩
  have noted : (note (.refused label cause) : Command σ Unit).Tells session log
      (fun _ log => Since next log) fun fault log => EndsRefused cause fault ∧ Since next log :=
    .note (since.concat trivial)
  refine .bind noted fun _ session log since => ?_
  refine .bind (reports_showRefusal _ session log since) fun _ _ _ since => ?_
  exact .throw ⟨.refused, since⟩

/-! ## What is never refused -/

/-- However it is used, the command is not refused. -/
abbrev Unrefused (command : Command σ α) : Prop :=
  FailsWithin (fun _ => True) (fun cause => ∀ refusal, cause ≠ .refused refusal) command

/-- Neither the screen nor the user nor the delay refuses a command. -/
theorem interrupts_unrefused :
    Interrupts (fun _ => True) fun cause => ∀ refusal, cause ≠ .refused refusal where
  display _ _ := nofun
  quit _ := nofun
  overlong _ _ _ _ := nofun

theorem unrefused_runProgram (program : Program) (steps : Nat) :
    Unrefused (runProgram program steps : Command σ _) := by
  intro session _
  obtain ⟨-, result, final, applied, -, -, fatal⟩ := exists_chronicle_runProgram program steps session
  unfold Act.Ensures
  rw [applied]
  cases result with
  | ok stack => exact trivial
  | error cause =>
    refine ⟨?_, trivial⟩
    rintro refusal rfl
    cases fatal _ rfl

theorem unrefused_interactive (keys : Nat) : Unrefused (interactive keys : Command σ _) := by
  refine fun session _ => (interactive_failsWithin keys session).mono (fun _ _ => id) ?_
  rintro _ _ ⟨fault, rfl⟩
  exact ⟨nofun, trivial⟩

/-! ## All tasks -/

/-- A task that is an operation does it and shows what came of it. -/
theorem Task.exists_execute {task : Task} {operation : Window.Operation}
    (same : task.operation? = some operation) :
    ∃ label, (task.act : Command σ Unit) = execute label operation.changes operation.act := by
  cases task <;> cases same <;> exact ⟨_, rfl⟩

/-- A task that is no single operation is never refused. -/
theorem Task.unrefused {task : Task} (other : task.operation? = none) :
    Unrefused (task.act : Command σ Unit) := by
  cases task with
  | move | turnLeft | turnRight | pick | put | setBag _ | setTileAhead _ | setBeepersHere _ =>
    cases other
  | frontIsBlocked | frontIsTreasure | beeperIsPresent | isFacing _ =>
    exact .bind (interrupts_unrefused.query _ _) fun _ => .pure ()
  | setSpeed speed => exact .update fun _ _ => trivial
  | toggleVerbosity => exact .bind interrupts_unrefused.toggleVerbosity fun _ => .pure ()
  | message text style => exact message_failsWithin interrupts_unrefused.display _ _
  | pause => exact interrupts_unrefused.prompt _ _
  | complete => exact interrupts_unrefused.complete
  | save path => exact .bind (interrupts_unrefused.save path fun _ _ => nofun) fun _ => .pure ()
  | resize => exact interrupts_unrefused.resize
  | runProgram program steps => exact .bind (unrefused_runProgram program steps) fun _ => .pure ()
  | interactive keys => exact .bind (unrefused_interactive keys) fun _ => .pure ()

omit [Screen σ] in
/-- Asides leave the window alone. -/
theorem window_leaveAll (deeds : List Deed) (aside : ∀ deed ∈ deeds, deed.IsAside) :
    (leaveAll session deeds).window = session.window := by
  induction deeds generalizing session with
  | nil => rfl
  | cons deed rest inductionHypothesis =>
    rw [List.forall_mem_cons] at aside
    refine (inductionHypothesis aside.2).trans ?_
    cases deed with
    | noted _ | drew _ _ | read _ _ => rfl
    | became _ => exact aside.1.elim

/-- A task that is a forbidden operation works on the window first and leaves it untouched, and then
it shows texts until it ends. -/
theorem Task.exists_chronicle {task : Task} {operation : Window.Operation}
    (same : task.operation? = some operation)
    (forbidden : session.window.Forbids operation refusal) :
    ∃ cause final deeds, EndsRefused refusal cause ∧ session.window.Untouched final.window ∧
      (∀ deed ∈ deeds, deed.IsAside) ∧
      Chronicle task.act session (.became final.window :: deeds) (.error cause) final := by
  obtain ⟨label, executes⟩ := Task.exists_execute (σ := σ) same
  obtain ⟨next, refused⟩ := forbidden.exists_refused
  have told : (execute label operation.changes operation.act : Command σ Unit).Tells session []
      (fun _ _ => False) fun cause log => EndsRefused refusal cause ∧ Since next log :=
    tells_execute label operation.changes refused
  obtain ⟨deeds, result, final, chronicle, ends⟩ := told
  rw [← executes] at chronicle
  cases result with
  | ok _ => exact ends.elim
  | error cause =>
    obtain ⟨ends, others, rfl, aside⟩ := ends
    obtain ⟨screen, left⟩ := chronicle.exists_final_eq
    have window : final.window = next := by
      rw [left]
      exact window_leaveAll others aside
    rw [← window] at chronicle
    exact ⟨cause, final, others, ends, window ▸ (Window.forbids_of_refused refused).2, aside, chronicle⟩

/-- A task that is refused is a forbidden operation. -/
theorem Task.isRefused {task : Task} {final : Session σ}
    (applied : task.act.apply session = (.error (.refused refusal), final)) :
    ∃ operation, task.operation? = some operation ∧
      IsRefused task.act session operation refusal final := by
  cases same : task.operation? with
  | none => exact absurd rfl (((Task.unrefused same session trivial).of_error applied).1 refusal)
  | some operation =>
    rcases worked : operation.act.apply session.window with ⟨reason | value, next⟩
    · have forbidden := (Window.forbids_of_refused worked).1
      obtain ⟨cause, last, deeds, ends, untouched, aside, chronicle⟩ :=
        Task.exists_chronicle same forbidden
      cases chronicle.apply_eq.symm.trans applied
      cases ends
      exact ⟨operation, rfl, forbidden, untouched, deeds, aside, chronicle⟩
    · obtain ⟨label, executes⟩ := Task.exists_execute (σ := σ) same
      rw [executes] at applied
      have unrefused := interrupts_unrefused.execute_apply label operation.changes operation.act
        trivial fun refusal window refused => by cases worked.symm.trans refused
      exact absurd rfl ((unrefused.of_error applied).1 refusal)

/-- Through a window an operation is refused exactly if it is forbidden, with the answer that says
why, and what is refused leaves Karel, the tiles, the borders, the size and the corner as they were.
In a session a task that is refused is an operation that is forbidden in its window; the window is
left as it was, and after that only texts are shown and keys are read. On the other hand a task that
is a forbidden operation is refused, unless the user quits or the screen fails while this is shown. -/
theorem refused_iff_forbidden :
    (∀ (window : Window) (operation : Window.Operation) (refusal : Refusal),
      ((∃ next, operation.act.apply window = (.error refusal, next)) ↔
          window.Forbids operation refusal) ∧
        ∀ next, operation.act.apply window = (.error refusal, next) → window.Untouched next) ∧
    ∀ (task : Task) (session : Session σ) (refusal : Refusal),
      (∀ final, task.act.apply session = (.error (.refused refusal), final) →
        ∃ operation, task.operation? = some operation ∧
          IsRefused task.act session operation refusal final) ∧
      ∀ operation, task.operation? = some operation → session.window.Forbids operation refusal →
        ∃ cause final, task.act.apply session = (.error cause, final) ∧
          EndsRefused refusal cause := by
  refine ⟨fun window operation refusal => ⟨⟨?_, Window.Forbids.exists_refused⟩, ?_⟩,
    fun task session refusal => ⟨fun final => Task.isRefused, fun operation same forbidden => ?_⟩⟩
  · rintro ⟨next, refused⟩
    exact (Window.forbids_of_refused refused).1
  · exact fun next refused => (Window.forbids_of_refused refused).2
  · obtain ⟨cause, final, deeds, ends, -, -, chronicle⟩ := Task.exists_chronicle same forbidden
    exact ⟨cause, final, chronicle.apply_eq, ends⟩

/-- A session whose Karel stands on an empty cell and faces the border of a plane of one cell. -/
def boxedSession : Session Sheet where
  window := .onWorld ⟨.initial, .empty (.finite 1 1)⟩ ⟨1, 1, 0⟩
  screen := .blank ⟨1, 3⟩ [.up] none
  settings := .standard
  records := .ofStorage .empty

/-- In the plane of one cell Karel can not move, and the session says so. -/
theorem refused_iff_forbidden_boxed :
    ∃ final, Task.move.act.apply boxedSession =
        (.error (.refused (.blocked .origin .east .wall)), final) ∧
      ∃ operation, Task.operation? .move = some operation ∧
        IsRefused Task.move.act boxedSession operation (.blocked .origin .east .wall) final := by
  have refused : (Task.move.act.apply boxedSession).1 =
      .error (.refused (.blocked .origin .east .wall)) := by
    decide +kernel
  exact ⟨_, Prod.ext refused rfl,
    (refused_iff_forbidden.2 .move boxedSession _).1 _ (Prod.ext refused rfl)⟩

end Karel.Session
