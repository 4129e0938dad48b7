import Karel.Proofs.Language.Invariant
import Karel.Proofs.Session.Changes
import Karel.Proofs.Session.Room
import Karel.Proofs.Session.Tasks

/-!
# Invariants of sessions

Much of what a session does besides its work on the world is the same in all commands: it shows lines
of text, waits for keys and tells its log. An invariant that does not mind this is `Undisturbed`, and
then a command keeps it if the redraw of what the command has changed restores it. If moreover all
operations on the window keep it, and the fitting of the window to the screen does, which is `Upkeep`,
then everything that a session can be told keeps it, programs and interactive mode included.
-/

namespace Karel

open Console

namespace Session

variable {σ α : Type}

/-- A stroke on the two lines below the window, or on no place of the screen at all. -/
def IsLine (session : Session σ) : Stroke → Prop
  | .message row _ _ => row = session.statusRow ∨ row = session.messageRow
  | .present | .alert => True
  | .clear | .draw .. => False

theorem isLine_of_mem_messageStrokes {session : Session σ} {text : String} {style : MessageStyle} :
    ∀ stroke ∈ messageStrokes session text style, IsLine session stroke := by
  intro stroke member
  rcases List.mem_cons.mp member with rfl | last
  · exact .inr rfl
  · rw [List.mem_singleton.mp last]
    exact trivial

theorem isLine_of_mem_statusStrokes {session : Session σ} {label : String} :
    ∀ stroke ∈ statusStrokes session label, IsLine session stroke := by
  intro stroke member
  unfold statusStrokes at member
  split at member
  next =>
    rw [List.mem_singleton.mp member]
    exact .inl rfl
  next => cases member

/-- To write the world to a file changes the files at most. -/
theorem writeWorld_preserves {holds : Session σ → Prop}
    (kept : ∀ session records, holds session → holds { session with records := records })
    (path : Option String) : (writeWorld path).Preserves holds fun _ => holds := by
  have filed : ∀ path text, (writeFile path text).Preserves holds fun _ => holds := by
    intro path text
    refine .change fun session next held written => ?_
    dsimp only at written
    split at written <;> cases written
    exact kept _ _ held
  refine .bind (.ask _) fun session => ?_
  split
  next => exact .throw fun _ => id
  next path _ =>
    split
    next => exact .throw fun _ => id
    next text _ => exact .bind (filed path text) fun _ => .pure path

variable [Screen σ]

/-- A condition on sessions that holds whatever the settings and the records are, and whatever is
shown on the lines below the window and typed. The second condition is what holds after a failure;
only a failure of the screen may leave the first one broken. -/
structure Undisturbed (holds : Session σ → Prop) (fails : SessionFault → Session σ → Prop) :
    Prop where
  congr : ∀ {session next}, holds session → next.window = session.window →
    next.screen = session.screen → holds next
  fails_congr : ∀ {cause session next}, fails cause session → next.window = session.window →
    next.screen = session.screen → fails cause next
  stop : ∀ {cause session}, holds session → fails cause session
  recover : ∀ {cause session}, fails cause session → (∀ fault, cause ≠ .display fault) →
    holds session
  draws : ∀ {session drawing strokes}, holds session → Draws session drawing strokes →
    (∀ stroke ∈ strokes, IsLine session stroke) →
    drawing.Ensures session (fun _ next => holds next) fun fault next => fails (.display fault) next
  nextKey : ∀ limit, (onScreen (Screen.nextKey limit)).Preserves holds
    fun fault next => fails (.display fault) next

namespace Undisturbed

variable {holds : Session σ → Prop} {fails : SessionFault → Session σ → Prop}
  (calm : Undisturbed holds fails)
include calm

theorem note (event : Log.Event) : (note event : Command σ Unit).Preserves holds fails :=
  fun _ kept => calm.congr kept rfl rfl

theorem showMessage (text : String) (style : MessageStyle) :
    (showMessage text style : Drawing σ Unit).Preserves holds
      fun fault next => fails (.display fault) next :=
  fun _ kept => calm.draws kept (draws_message text style) isLine_of_mem_messageStrokes

theorem message (text : String) (style : MessageStyle) :
    (message text style : Command σ Unit).Preserves holds fails :=
  .mapError (calm.showMessage text style)

theorem prompt (text : String) (style : MessageStyle) :
    (prompt text style : Command σ Unit).Preserves holds fails := by
  refine .bind (.mapError ?_) fun key => ?_
  · refine .bind (calm.showMessage _ style) fun _ => .bind (calm.nextKey none) fun key => ?_
    exact .bind (calm.showMessage "" .status) fun _ => .pure key
  · split
    next => exact .throw fun _ => calm.stop
    next => exact .pure ()

theorem showError (text : String) : (showError text : Command σ Unit).Preserves holds fails := by
  refine .bind (.mapError fun session kept => ?_) fun _ => calm.prompt text .error
  exact calm.draws kept (.stroke .alert) (List.forall_mem_singleton.mpr trivial)

theorem tick : (tick : Command σ Unit).Preserves holds fails := by
  intro session kept
  refine delay_bind (fun nanoseconds _ => ?_) fun _ => calm.stop kept
  refine Act.Preserves.bind (.mapError (calm.nextKey _)) (fun key => ?_) session kept
  split
  next => exact .throw fun _ => calm.stop
  next => exact calm.prompt "PAUSED" .status
  next => exact .pure ()

theorem showStatus (label : String) : (showStatus label >>= fun _ =>
    onScreen Screen.present : Drawing σ Unit).Preserves holds
      fun fault next => fails (.display fault) next := by
  refine .bind (fun session kept => ?_) fun _ session kept => ?_
  · exact calm.draws kept (draws_status label) isLine_of_mem_statusStrokes
  · exact calm.draws kept (.stroke .present) (List.forall_mem_singleton.mpr trivial)

/-- What is shown after a success keeps what the redraw has restored. -/
theorem report (label : String) {changes : Redraw} {session : Session σ}
    (restored : (redraw changes).Ensures session (fun _ next => holds next)
      fun fault next => fails (.display fault) next) :
    Act.Ensures (display do
      redraw changes
      Session.showStatus label
      onScreen Screen.present) session (fun _ next => holds next) fails :=
  .mapError (.bind restored fun _ drawn kept => calm.showStatus label drawn kept)

/-- A command keeps the invariant if it holds again when what the command changes is drawn, and if
nothing has to be drawn after a refusal. -/
theorem execute (label : String) {changes : Redraw} {act : Act Window Refusal α}
    {session : Session σ}
    (restored : act.Ensures session.window
      (fun _ window => ∀ next : Session σ, next.window = window → next.screen = session.screen →
        (redraw changes).Ensures next (fun _ drawn => holds drawn)
          fun fault drawn => fails (.display fault) drawn)
      fun _ window => holds { session with window := window }) :
    (execute label changes act).Ensures session (fun _ next => holds next) fails := by
  unfold Act.Ensures
  rw [Session.execute, Act.apply_bind, Act.apply_attempt, onWindow, Act.apply_onPart]
  rcases applied : act.apply session.window with ⟨refusal | value, window⟩ <;> dsimp only [id_eq]
  · have kept := restored.of_error applied
    refine Act.Preserves.bind (calm.note _) (fun _ => ?_) _ kept
    exact .bind (calm.showError _) fun _ => .throw fun _ => calm.stop
  · refine Act.Ensures.ask_bind (.update_bind ?_)
    refine .bind (calm.report label (restored.of_ok applied _ rfl rfl)) fun _ shown kept => ?_
    split
    next => exact Act.Preserves.bind calm.tick (fun _ => .pure value) shown kept
    next => exact .pure kept

/-- A question about the world needs no redraw. -/
theorem query (label : String) (question : World → Bool) :
    (query label question : Command σ Bool).Preserves holds fails := by
  intro session kept
  exact calm.execute label (.ask fun next window screen => .pure (calm.congr kept window screen))

theorem toggleVerbosity : (toggleVerbosity : Command σ Verbosity).Preserves holds fails := by
  refine .bind (.ask _) fun old => .bind (.update fun _ kept => calm.congr kept rfl rfl) fun _ => ?_
  refine .bind (.mapError fun session kept => .ask_bind ?_) fun _ => .pure old
  have cleared := calm.draws kept (.stroke (.message session.statusRow "" .status))
    (List.forall_mem_singleton.mpr (.inl rfl))
  exact .bind cleared fun _ shown kept => calm.showStatus "TOGGLE" shown kept

theorem complete : (complete : Command σ Unit).Preserves holds fails :=
  .mapError (.bind (calm.showMessage _ .complete) fun _ =>
    .bind (calm.nextKey none) fun _ => .pure ())

theorem save (path : Option String) : (save path : Command σ String).Preserves holds fails := by
  have written := writeWorld_preserves (fun session records kept => calm.congr kept rfl rfl) path
  refine .attempt_bind written (fun path => ?_) fun fault session kept => ?_
  · exact .bind (calm.note _) fun _ => .bind (calm.message _ .status) fun _ => .pure path
  · refine Act.Preserves.bind (calm.note _) (fun _ => ?_) session kept
    exact .bind (calm.showError _) fun _ => .throw fun _ => calm.stop

/-- Going on after a refusal, the invariant still holds. -/
theorem ignoreRefusal {command : Command σ Unit} (keeps : command.Preserves holds fails) :
    (ignoreRefusal command).Preserves holds fails := by
  refine .attempt_bind keeps (fun _ => .pure ()) fun cause session failed => ?_
  split
  next value same => cases same
  next refusal same =>
    cases same
    exact calm.recover failed nofun
  next fault other same =>
    cases same
    exact failed

theorem observe (step : Step) : (observe step : Command σ Unit).Preserves holds fails := by
  refine .bind (calm.note _) fun _ => .bind (.ask _) fun mode => ?_
  cases mode with
  | off => exact .pure ()
  | log => exact calm.note _
  | announce => exact calm.message _ _
  | confirm =>
      refine .bind (calm.message _ _) fun _ => .bind (.mapError (calm.nextKey none)) fun key => ?_
      split
      next => exact .throw fun _ => calm.stop
      next => exact .pure ()

/-- To fit the window to the screen keeps the invariant, if it holds when the screen has no room, and
if otherwise it holds after everything was drawn in a window that fits. -/
theorem resize (measures : ScreenSize → Session σ → Prop)
    (measured : ∀ session, holds session → (onScreen Screen.size).Ensures session
      (fun size next => measures size next) fun fault next => fails (.display fault) next)
    (small : ∀ size session, measures size session →
      cutTo (.ofNat size.columns.toNat) session.window.world.grid.bounds.width < 1 ∨
        cutTo (.ofNat size.rows.toNat - 2) session.window.world.grid.bounds.height < 1 →
      holds session)
    (restored : ∀ size session window, measures size session →
      (∃ width height, window = session.window.resize width height) → window.Fits size →
      (onScreen Screen.clear).Ensures { session with window := window }
        (fun _ cleared => ∀ next : Session σ, next.window = cleared.window →
          next.screen = cleared.screen → (redraw .everything).Ensures next
            (fun _ drawn => holds drawn) fun fault drawn => fails (.display fault) drawn)
        fun fault next => fails (.display fault) next) :
    (resize : Command σ Unit).Preserves holds fails := by
  intro session kept
  refine .bind (.mapError (measured session kept)) fun size session measures => ?_
  refine .ask_bind ?_
  dsimp only
  split
  next noRoom => exact calm.stop (small size session measures noRoom)
  next room =>
    obtain ⟨wide, high⟩ := not_or.mp room
    refine .update_bind (.bind (.mapError (restored size session _ measures ⟨_, _, rfl⟩
      (fits_resize _ _ _ wide high))) fun _ cleared restored => ?_)
    exact calm.execute "RESIZE" (.pure restored)

end Undisturbed

/-- What the reading of a key and the answer to each key keep, any number of keys keeps. The induction
is on that number. -/
theorem answerKeys_preserves {holds : Session σ → Prop} {fails : SessionFault → Session σ → Prop}
    (pressed : (display (onScreen (Screen.nextKey none)) : Command σ (Option Key)).Preserves holds fails)
    (answered : ∀ key, (respond key : Command σ (Option Exit)).Preserves holds fails) (keys : Nat) :
    (answerKeys keys : Command σ (Option Exit)).Preserves holds fails := by
  induction keys with
  | zero => exact .pure none
  | succ keys inductionHypothesis =>
    refine .bind pressed fun key => ?_
    split
    next => exact inductionHypothesis
    next key =>
      refine .bind (answered key) fun exit => ?_
      split
      next => exact .pure _
      next => exact inductionHypothesis

/-- An invariant that is kept by everything that a session can do to its window. -/
structure Upkeep (holds : Session σ → Prop) (fails : SessionFault → Session σ → Prop) : Prop
    extends Undisturbed holds fails where
  operation : ∀ (label : String) (operation : Window.Operation),
    (∀ width height, operation ≠ .resize width height) →
    (execute label operation.changes operation.act : Command σ Unit).Preserves holds fails
  resize : (resize : Command σ Unit).Preserves holds fails

namespace Upkeep

variable {holds : Session σ → Prop} {fails : SessionFault → Session σ → Prop}
  (upkeep : Upkeep holds fails)
include upkeep

/-- The words of programs keep the invariant. -/
theorem vocabulary : (vocabulary : Vocabulary (Session σ) SessionFault).Judged
    (Act.preservation holds) fails := by
  have kept : ∀ operation : Window.Operation, (∀ width height, operation ≠ .resize width height) →
      ∀ label, (ignoreRefusal (execute label operation.changes operation.act) :
        Command σ Unit).Preserves holds fails :=
    fun operation fixed label => upkeep.ignoreRefusal (upkeep.operation label operation fixed)
  refine Vocabulary.standard_judged ?_
  exact {
    skip := .pure ()
    move := kept .move nofun "MOVE"
    turnLeft := kept .turnLeft nofun "LEFT"
    turnRight := kept .turnRight nofun "RIGHT"
    pick := kept .pick nofun "TAKE"
    put := kept .put nofun "PUT"
    frontIsBlocked := upkeep.query _ _
    frontIsTreasure := upkeep.query _ _
    beeperIsPresent := upkeep.query _ _
    isFacing := fun direction => upkeep.query _ fun world => world.isFacing direction }

theorem runProgram (program : Program) (steps : Nat) :
    (runProgram program steps : Command σ _).Preserves holds fails := by
  refine .bind (upkeep.message _ _) fun _ => .mapError fun session kept => ?_
  refine (Program.run_preserves upkeep.vocabulary upkeep.observe program steps session kept).mono
    (fun _ _ => id) fun failure next left => ?_
  cases left with
  | fault kept => exact upkeep.stop kept
  | act failed => exact failed

/-- What a key asks for keeps the invariant. -/
theorem request {key : Key} {command : Command σ Unit} (asked : request key = .perform command) :
    command.Preserves holds fails := by
  unfold Session.request at asked
  split at asked <;> cases asked
  next => exact upkeep.operation "MOVE" .move nofun
  next => exact upkeep.operation "LEFT" .turnLeft nofun
  next => exact upkeep.operation "RIGHT" .turnRight nofun
  next => exact upkeep.operation "PUT" .put nofun
  next => exact upkeep.operation "TAKE" .pick nofun
  next => exact upkeep.prompt _ _
  next => exact .bind (upkeep.save none) fun _ => .pure ()
  next => exact upkeep.operation _ (.setTileAhead _) nofun
  next => exact upkeep.operation _ (.setTileAhead _) nofun
  next => exact upkeep.operation _ (.setTileAhead _) nofun
  next => exact .bind upkeep.toggleVerbosity fun _ => .pure ()
  next => exact upkeep.resize
  next => exact upkeep.resize
  next => exact upkeep.message _ _
  next => exact upkeep.message _ _
  next =>
    split
    next => exact upkeep.operation _ (.setBeepersHere _) nofun
    next => exact .pure ()
  next => exact .pure ()

theorem respond (key : Key) : (respond key : Command σ _).Preserves holds fails := by
  unfold Session.respond
  split
  next exit _ => exact .pure _
  next command asked =>
    refine .attempt_bind (upkeep.request asked) (fun _ => .pure none) fun cause session failed => ?_
    cases cause with
    | refused _ | save _ | quit => exact upkeep.recover failed nofun
    | display _ | program _ | overlong => exact failed

theorem answerKeys (keys : Nat) : (answerKeys keys : Command σ _).Preserves holds fails :=
  answerKeys_preserves (.mapError (upkeep.nextKey none)) upkeep.respond keys

theorem interactive (keys : Nat) : (interactive keys : Command σ _).Preserves holds fails := by
  have replaced : ∀ speed, (replaceSpeed speed : Command σ Unit).Preserves holds fails :=
    fun speed => .update fun session kept => upkeep.congr kept rfl rfl
  refine .bind (.ask _) fun speed => .bind (replaced none) fun _ => .bind (upkeep.message _ _) ?_
  intro _
  refine .attempt_bind (upkeep.answerKeys keys) (fun exit => ?_) fun cause session failed => ?_
  · exact .bind (replaced speed) fun _ => .pure exit
  · exact .update_bind (upkeep.fails_congr failed rfl rfl)

/-- Everything that a session can be told keeps the invariant. -/
theorem task (task : Task) : (task.act : Command σ Unit).Preserves holds fails := by
  cases task with
  | move => exact upkeep.operation "MOVE" .move nofun
  | turnLeft => exact upkeep.operation "LEFT" .turnLeft nofun
  | turnRight => exact upkeep.operation "RIGHT" .turnRight nofun
  | pick => exact upkeep.operation "TAKE" .pick nofun
  | put => exact upkeep.operation "PUT" .put nofun
  | frontIsBlocked => exact .bind (upkeep.query _ _) fun _ => .pure ()
  | frontIsTreasure => exact .bind (upkeep.query _ _) fun _ => .pure ()
  | beeperIsPresent => exact .bind (upkeep.query _ _) fun _ => .pure ()
  | isFacing direction => exact .bind (upkeep.query _ _) fun _ => .pure ()
  | setBag bag => exact upkeep.operation "BAG" (.setBag bag) nofun
  | setTileAhead tile => exact upkeep.operation _ (.setTileAhead tile) nofun
  | setBeepersHere count => exact upkeep.operation _ (.setBeepersHere count) nofun
  | setSpeed speed => exact .update fun session kept => upkeep.congr kept rfl rfl
  | toggleVerbosity => exact .bind upkeep.toggleVerbosity fun _ => .pure ()
  | message text style => exact upkeep.message text style
  | pause => exact upkeep.prompt _ _
  | complete => exact upkeep.complete
  | save path => exact .bind (upkeep.save path) fun _ => .pure ()
  | resize => exact upkeep.resize
  | runProgram program steps => exact .bind (upkeep.runProgram program steps) fun _ => .pure ()
  | interactive keys => exact .bind (upkeep.interactive keys) fun _ => .pure ()

end Upkeep

end Session

end Karel
