import Karel.Proofs.Console.Sheet
import Karel.Proofs.Session.Chronicle
import Karel.Session.Running

/-!
# Quitting a program

While a program runs, the key `q` can be read in four places: between two commands, in a pause, when
an error is shown, and when a step waits to be confirmed. Wherever it is read, nothing is done any
more but to take a text away that was shown, and the run ends. So a chronicle of a run has the key in
it at most once and then next to its end, which is `Ended`. Refusals end no run: `ignoreRefusal` goes
on after them.
-/

namespace Karel.Session

open Console

variable {σ α : Type}

/-! ## How runs end -/

/-- Whether a deed reads the key `q`. -/
def Deed.Quits (deed : Deed) : Prop := ∃ limit, deed = .read limit (.ok (some (.character 'q')))

/-- Deeds of which none reads the key `q`. -/
def Unasked (log : List Deed) : Prop := ∀ deed ∈ log, ¬ deed.Quits

/-- What is done after the key `q` was read, and the failure in which it ends: nothing at all, or the
message line is cleared. -/
inductive Aftermath : List Deed → SessionFault → Prop
  | nothing : Aftermath [] .quit
  | cleared {row : UInt16} : Aftermath [.drew [.message row "" .status, .present] (.ok ())] .quit
  | broken {row : UInt16} {fault : DisplayFault} :
      Aftermath [.drew [.message row "" .status, .present] (.error fault)] (.display fault)

/-- How a run ends before its time: the screen fails, or the program has a fault, or no clock can
measure the delay after a command, or somebody asks to quit. -/
inductive Ended : SessionFault → List Deed → Prop
  | broken {fault : DisplayFault} {log : List Deed} (unasked : Unasked log) :
      Ended (.display fault) log
  | faulty {fault : ProgramFault} {log : List Deed} (unasked : Unasked log) :
      Ended (.program fault) log
  | overlong {log : List Deed} (unasked : Unasked log) : Ended .overlong log
  | asked {cause : SessionFault} {before after : List Deed} {limit : Option Nat}
      (unasked : Unasked before) (aftermath : Aftermath after cause) :
      Ended cause (before ++ .read limit (.ok (some (.character 'q'))) :: after)

/-- How a command ends that does not succeed: in a refusal, or as a run ends. -/
inductive Unsuccessful : SessionFault → List Deed → Prop
  | refused {refusal : Refusal} {log : List Deed} (unasked : Unasked log) :
      Unsuccessful (.refused refusal) log
  | ended {cause : SessionFault} {log : List Deed} (ended : Ended cause log) :
      Unsuccessful cause log

variable {log : List Deed} {deed : Deed} {cause : SessionFault}

theorem Unasked.concat (unasked : Unasked log) (other : ¬ deed.Quits) : Unasked (log ++ [deed]) :=
  List.forall_mem_append.mpr ⟨unasked, List.forall_mem_singleton.mpr other⟩

/-- Other keys do not matter. -/
theorem Unasked.read {limit : Option Nat} {key : Option Key} (unasked : Unasked log)
    (other : key ≠ some (.character 'q')) : Unasked (log ++ [.read limit (.ok key)]) := by
  refine unasked.concat ?_
  rintro ⟨_, same⟩
  cases same
  exact other rfl

/-- Without the key `q` among the keys of the deeds it is not among the answers of the screen. -/
theorem Unasked.not_mem_answers (unasked : Unasked log) :
    .ok (some (.character 'q')) ∉ log.filterMap Deed.answer? := by
  intro member
  obtain ⟨deed, done, answered⟩ := List.mem_filterMap.mp member
  cases deed with
  | read limit outcome =>
      cases answered
      exact unasked _ done ⟨limit, rfl⟩
  | drew _ _ | noted _ | became _ => cases answered

theorem Ended.isFatal (ended : Ended cause log) : cause.isFatal = true := by
  cases ended with
  | broken | faulty | overlong => rfl
  | asked _ aftermath => cases aftermath <;> rfl

/-! ## The parts of a run -/

variable [Screen σ] {session : Session σ} {past : List Deed}

/-- A drawing that fails ends a run. -/
theorem tells_drawing {drawing : Drawing σ Unit} {strokes : List Stroke}
    (draws : Draws session drawing strokes) (unasked : Unasked past) :
    drawing.Tells session past (fun _ log => Unasked log) fun fault log =>
      Ended (.display fault) log :=
  .draw draws (unasked.concat nofun) fun _ => .broken (unasked.concat nofun)

theorem tells_key (limit : Option Nat) (unasked : Unasked past) :
    (onScreen (Screen.nextKey limit)).Tells session past
      (fun key log => log = past ++ [.read limit (.ok key)]) fun fault log =>
        Ended (.display fault) log :=
  .key (fun _ => rfl) fun _ => .broken (unasked.concat nofun)

theorem reports_note (event : Log.Event) : (note event : Command σ Unit).Reports Unasked Ended :=
  fun _ _ unasked => .note (unasked.concat nofun)

theorem reports_message (text : String) (style : MessageStyle) :
    (message text style : Command σ Unit).Reports Unasked Ended :=
  fun _ _ unasked => .mapError (tells_drawing (draws_message text style) unasked)

/-- The key `q` ends a run at once where no text has to be taken away. -/
theorem reports_key (limit : Option Nat) {next : Option Key → Command σ α}
    (quits : next (some (.character 'q')) = throw .quit)
    (other : ∀ key, key ≠ some (.character 'q') → (next key).Reports Unasked Ended) :
    (display (onScreen (Screen.nextKey limit)) >>= next).Reports Unasked Ended := by
  intro session past unasked
  refine .bind (.mapError (tells_key limit unasked)) ?_
  rintro key session _ rfl
  by_cases asked : key = some (.character 'q')
  · rw [asked, quits]
    exact .throw (.asked unasked .nothing)
  · exact other key asked session _ (unasked.read asked)

/-- Where a text was shown it is taken away first, and this may fail. -/
theorem reports_prompt (text : String) (style : MessageStyle) :
    (prompt text style : Command σ Unit).Reports Unasked Ended := by
  intro session past unasked
  have answered : (display do
      showMessage (text ++ " Press any key to continue") style
      let key ← onScreen (Screen.nextKey none)
      showMessage "" .status
      Pure.pure key : Command σ (Option Key)).Tells session past
        (fun key log => if key = some (.character 'q') then Ended .quit log else Unasked log)
        Ended := by
    refine .mapError (.bind (tells_drawing (draws_message _ style) unasked) ?_)
    intro _ session past unasked
    refine .bind (tells_key none unasked) ?_
    rintro key session _ rfl
    by_cases asked : key = some (.character 'q')
    · have cleared : (showMessage "" .status : Drawing σ Unit).Tells session
          (past ++ [.read none (.ok key)]) (fun _ log => Ended .quit log) fun fault log =>
            Ended (.display fault) log := by
        rw [asked]
        refine .draw (draws_message "" .status) ?_ fun fault => ?_
        · rw [List.append_assoc]
          exact .asked unasked .cleared
        · rw [List.append_assoc]
          exact .asked unasked .broken
      exact .bind cleared fun _ _ _ ended => .pure ((if_pos asked).mpr ended)
    · refine .bind (tells_drawing (draws_message "" .status) (unasked.read asked)) ?_
      exact fun _ _ _ unasked => .pure ((if_neg asked).mpr unasked)
  refine .bind answered fun key session log heard => ?_
  split at heard
  next asked =>
    rw [if_pos asked]
    exact .throw heard
  next other =>
    rw [if_neg other]
    exact .pure heard

theorem reports_showError (text : String) :
    (showError text : Command σ Unit).Reports Unasked Ended := by
  intro session past unasked
  refine .bind (.mapError (tells_drawing (.stroke .alert) unasked)) ?_
  exact fun _ session log unasked => reports_prompt text .error session log unasked

theorem reports_delay : (delay : Command σ Nat).Reports Unasked Ended := by
  intro session past unasked
  refine .ask_bind (fun _ => rfl) ?_
  cases session.settings.delay? with
  | some nanoseconds => exact .pure unasked
  | none => exact .throw (.overlong unasked)

theorem reports_tick : (tick : Command σ Unit).Reports Unasked Ended := by
  refine (Act.reporting Unasked).bind reports_delay fun nanoseconds => reports_key _ rfl ?_
  intro key other
  split
  next => exact absurd rfl other
  next => exact reports_prompt "PAUSED" .status
  next => exact (Act.reporting Unasked).pure ()

theorem reports_observe (step : Step) : (observe step : Command σ Unit).Reports Unasked Ended := by
  intro session past unasked
  refine .bind (reports_note _ session past unasked) fun _ session log unasked => ?_
  refine .ask_bind (fun _ => rfl) ?_
  cases session.settings.stepMode with
  | off => exact .pure unasked
  | log => exact reports_note _ session log unasked
  | announce => exact reports_message _ _ session log unasked
  | confirm =>
      refine .bind (reports_message _ _ session log unasked) fun _ session log unasked => ?_
      refine reports_key none (if_pos rfl) (fun key other => ?_) session log unasked
      rw [if_neg other]
      exact (Act.reporting Unasked).pure ()

/-! ## Words of programs -/

theorem reports_report (label : String) (changes : Redraw) : (display do
    redraw changes
    showStatus label
    onScreen Screen.present : Command σ Unit).Reports Unasked Ended := by
  intro session past unasked
  have draws : Draws session (do
      redraw changes
      showStatus label
      onScreen Screen.present)
      (redrawStrokes session.window changes ++ (statusStrokes session label ++ [.present])) :=
    (draws_redraw changes).andThen ((draws_status label).andThen (.stroke .present))
  exact .mapError (tells_drawing draws unasked)

/-- Work on the window is done before anything is shown and any key is read. -/
theorem reports_execute (label : String) (changes : Redraw) (act : Act Window Refusal α)
    {fails : SessionFault → List Deed → Prop}
    (ends : ∀ cause log, Ended cause log → fails cause log)
    (refuses : ∀ window refusal next, act.apply window = (.error refusal, next) →
      ∀ log, Unasked log → fails (.refused refusal) log) :
    (execute label changes act : Command σ α).Reports Unasked fails := by
  intro session past unasked
  have worked : (onWindow act).Tells session past (fun _ log => Unasked log) fun refusal log =>
      Unasked log ∧ ∀ log, Unasked log → fails (.refused refusal) log :=
    .window (fun _ _ _ => unasked.concat nofun) fun refusal next applied =>
      ⟨unasked.concat nofun, refuses _ refusal next applied⟩
  refine .attempt_bind worked (fun value session log unasked => ?_) ?_
  · refine .mono ?_ (fun _ _ => id) ends
    refine .ask_bind (fun _ => rfl) (.bind (reports_note _ session log unasked) ?_)
    intro _ session log unasked
    refine .bind (reports_report label changes session log unasked) fun _ session log unasked => ?_
    split
    next =>
      exact .bind (reports_tick session log unasked) fun _ _ _ unasked => .pure unasked
    next => exact .pure unasked
  · rintro refusal session log ⟨unasked, refused⟩
    refine .bind ((reports_note _ session log unasked).mono (fun _ _ => id) ends) ?_
    intro _ session log unasked
    refine .bind ((reports_showError _ session log unasked).mono (fun _ _ => id) ends) ?_
    exact fun _ _ log unasked => .throw (refused log unasked)

/-- What goes on after a refusal ends only as a run ends. -/
theorem reports_ignoreRefusal {command : Command σ Unit}
    (reports : command.Reports Unasked Unsuccessful) :
    (ignoreRefusal command).Reports Unasked Ended := by
  intro session past unasked
  refine .attempt_bind (reports session past unasked) (fun _ _ _ unasked => .pure unasked) ?_
  intro cause session log failed
  cases failed with
  | refused unasked => exact .pure unasked
  | ended ended =>
      cases cause with
      | refused _ | save _ => cases ended.isFatal
      | display _ | program _ | quit | overlong => exact .throw ended

theorem reports_query (label : String) (question : World → Bool) :
    (query label question : Command σ Bool).Reports Unasked Ended :=
  reports_execute label .nothing _ (fun _ _ => id) fun _ _ _ applied => by cases applied

theorem vocabulary_judged : (vocabulary : Vocabulary (Session σ) SessionFault).Judged
    (Act.reporting Unasked) Ended := by
  have goesOn : ∀ (label : String) (changes : Redraw) (act : Act Window Refusal Unit),
      (ignoreRefusal (execute label changes act) : Command σ Unit).Reports Unasked Ended :=
    fun label changes act => reports_ignoreRefusal
      (reports_execute label changes act (fun _ _ => .ended) fun _ _ _ _ _ => .refused)
  refine Vocabulary.standard_judged ?_
  exact {
    skip := (Act.reporting Unasked).pure ()
    move := goesOn _ _ _
    turnLeft := goesOn _ _ _
    turnRight := goesOn _ _ _
    pick := goesOn _ _ _
    put := goesOn _ _ _
    frontIsBlocked := reports_query _ _
    frontIsTreasure := reports_query _ _
    beeperIsPresent := reports_query _ _
    isFacing := fun direction => reports_query _ fun world => world.isFacing direction }

theorem reports_runProgram (program : Program) (steps : Nat) :
    (runProgram program steps : Command σ _).Reports Unasked Ended := by
  refine (Act.reporting Unasked).bind (reports_message _ _) fun _ => ?_
  refine (Act.reporting Unasked).mapError
    (Program.run_judged vocabulary_judged reports_observe program steps) fun failure log left => ?_
  cases left with
  | fault unasked => exact .faulty unasked
  | act ended => exact ended

/-- These deeds, done from a session, end where the key `q` is read, if it is: only the aftermath
follows, in which the window and the records stay as they were then. Otherwise nothing is quit. -/
def ObeysQuit (session : Session σ) (deeds : List Deed) (result : Except SessionFault α)
    (final : Session σ) : Prop :=
  Unasked deeds ∧ result ≠ .error .quit ∨
    ∃ before limit after cause,
      deeds = before ++ .read limit (.ok (some (.character 'q'))) :: after ∧
        Unasked before ∧ Aftermath after cause ∧ result = .error cause ∧
          final.window = (leaveAll session before).window ∧
            final.records = (leaveAll session before).records

/-- A run has a chronicle that obeys a wish to quit, and fails only with what ends the session. -/
theorem exists_chronicle_runProgram (program : Program) (steps : Nat) (session : Session σ) :
    ∃ deeds result final, (runProgram program steps).apply session = (result, final) ∧
      Chronicle (runProgram program steps) session deeds result final ∧
      ObeysQuit session deeds result final ∧
      ∀ cause, result = .error cause → cause.isFatal = true := by
  obtain ⟨deeds, result, final, chronicle, ends⟩ :=
    reports_runProgram program steps session [] (List.forall_mem_nil _)
  refine ⟨deeds, result, final, chronicle.apply_eq, chronicle, ?_⟩
  obtain ⟨screen, left⟩ := chronicle.exists_final_eq
  cases result with
  | ok stack => exact ⟨.inl ⟨ends, nofun⟩, nofun⟩
  | error cause =>
      refine ⟨?_, fun other same => ?_⟩
      · cases (show Ended cause deeds from ends) with
        | broken unasked | faulty unasked | overlong unasked => exact .inl ⟨unasked, nofun⟩
        | @asked _ before after limit unasked aftermath =>
            have nothing : leaveAll session (before ++ .read limit (.ok (some (.character 'q'))) ::
                after) = leaveAll session before := by
              rw [leaveAll, List.foldl_append]
              cases aftermath <;> rfl
            rw [nothing] at left
            exact .inr ⟨before, limit, after, cause, rfl, unasked, aftermath, rfl, by rw [left],
              by rw [left]⟩
      · cases same
        exact ends.isFatal

/-- In a run of a program the key `q` is read at most once, wherever that is: nothing but the clearing
of the message line comes after it, no step and no work on the world, and the run ends as quit or
because that failed. Whether it is read or not, a run that fails ends the session. On a screen that
writes down the keys, `q` is the last of them. -/
theorem runProgram_quits (program : Program) (steps : Nat) :
    (∀ session : Session σ, ∃ deeds result final,
      (runProgram program steps).apply session = (result, final) ∧
      Chronicle (runProgram program steps) session deeds result final ∧
      ObeysQuit session deeds result final ∧
      ∀ cause, result = .error cause → cause.isFatal = true) ∧
    ∀ (session : Session (Recorder σ)) result final, session.screen.answers = [] →
      (runProgram program steps).apply session = (result, final) →
        .ok (some (.character 'q')) ∈ final.screen.answers →
          (∃ others, final.screen.answers = others ++ [.ok (some (.character 'q'))] ∧
            .ok (some (.character 'q')) ∉ others) ∧
          (result = .error .quit ∨ ∃ fault, result = .error (.display fault)) := by
  refine ⟨exists_chronicle_runProgram program steps, fun session result final none applied read => ?_⟩
  obtain ⟨deeds, result, final, same, chronicle, ends, -⟩ :=
    exists_chronicle_runProgram program steps session
  cases same.symm.trans applied
  have answers := chronicle.answers_eq
  rw [none, List.nil_append] at answers
  rcases ends with ⟨unasked, -⟩ | ⟨before, limit, after, cause, rfl, unasked, aftermath, rfl, -⟩
  · exact absurd (answers ▸ read) unasked.not_mem_answers
  · rw [List.filterMap_append, List.filterMap_cons] at answers
    refine ⟨⟨before.filterMap Deed.answer?, answers.trans ?_, unasked.not_mem_answers⟩, ?_⟩
    · cases aftermath <;> rfl
    · cases aftermath with
      | nothing | cleared => exact .inl rfl
      | broken => exact .inr ⟨_, rfl⟩

/-- A session on a sheet that gives the key `q` when the first command has been done. -/
def impatientSession : Session Sheet where
  window := .onWorld ⟨.initial, .empty .unbounded⟩ ⟨3, 3, 1⟩
  screen := .blank ⟨3, 5⟩ [.character 'q'] none
  settings := .standard
  records := .ofStorage .empty

/-- A program that turns left twice. -/
def turningProgram : Program where
  main := some "run"
  procedures := (∅ : Std.ExtTreeMap String (List Statement)).insert "run"
    [.invoke "left", .invoke "left"]

/-- A program that is to turn left twice is quit when it has turned once. -/
theorem runProgram_quits_sheet :
    ((runProgram turningProgram 5).apply impatientSession).2.window.world.robot.facing = .north ∧
      ∃ deeds result final,
        Chronicle (runProgram turningProgram 5) impatientSession deeds result final ∧
          result = .error .quit ∧ ¬ Unasked deeds := by
  obtain ⟨deeds, result, final, applied, chronicle, ends, -⟩ :=
    (runProgram_quits turningProgram 5).1 impatientSession
  have quits : ((runProgram turningProgram 5).apply impatientSession).1 = .error .quit := by
    decide +kernel
  rw [applied] at quits
  refine ⟨by decide +kernel, deeds, result, final, chronicle, quits, ?_⟩
  rcases ends with ⟨-, other⟩ | ⟨before, limit, after, cause, rfl, -⟩
  · exact absurd quits other
  · exact fun unasked => unasked _ (List.mem_append_right _ List.mem_cons_self) ⟨limit, rfl⟩

end Karel.Session
