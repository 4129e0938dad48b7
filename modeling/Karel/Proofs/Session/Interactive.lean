import Karel.Proofs.Session.Desk
import Karel.Proofs.Session.Room
import Karel.Proofs.Session.Saving
import Karel.Proofs.Window.Driving

/-!
# Interactive mode reads a key script

On a screen that follows scripts, a session and a desk do the same: `Attends` says which desk belongs
to a session, and every command simulates what the desk does for its key. What a session draws, tells
the log and remembers of its settings is not seen at a desk. While keys are answered there is no
delay, so no command is stopped by one. `interactive_reads` then says of interactive mode what
`Desk.answerKeys_eq` says of a desk: the script is read key by key.
-/

namespace Karel.Session

open Console

variable {σ α : Type}

/-- The session shows the world of a desk on a screen that follows the scripts of the desk. -/
structure Serves (follows : σ → Scripts → Prop) (saves : Bool) (session : Session σ)
    (desk : Desk) : Prop where
  world : session.window.world = desk.world
  screen : follows session.screen desk.scripts
  sound : desk.world.Sound
  saves : session.canSave = saves

/-- A session at a desk answers keys, and its commands take no time. -/
structure Attends (follows : σ → Scripts → Prop) (saves : Bool) (session : Session σ)
    (desk : Desk) : Prop extends Serves follows saves session desk where
  unhurried : session.settings.speed = none

/-- The speed is not seen at a desk. -/
theorem Serves.withSpeed {follows : σ → Scripts → Prop} {saves : Bool} {session : Session σ}
    {desk : Desk} (serves : Serves follows saves session desk) (speed : Option Float) :
    Serves follows saves { session with settings := { session.settings with speed := speed } }
      desk := by
  refine ⟨serves.world, serves.screen, serves.sound, ?_⟩
  rw [← serves.saves]
  exact canSave_eq session rfl rfl rfl

/-- What the screen is told leaves the session at the desk. -/
theorem Attends.onScreen {follows : σ → Scripts → Prop} {saves : Bool} {session : Session σ}
    {desk : Desk} (attends : Attends follows saves session desk) {screen : σ} {scripts : Scripts}
    (followed : follows screen scripts) :
    Attends follows saves { session with screen := screen } { desk with scripts := scripts } :=
  ⟨⟨attends.world, followed, attends.sound, attends.saves⟩, attends.unhurried⟩

/-- Which failures at a desk the failures of a session are. -/
inductive SetsBack : SessionFault → Setback → Prop
  | refused {refusal : Refusal} : SetsBack (.refused refusal) .told
  | save {fault : SaveFault} : SetsBack (.save fault) .told
  | quit : SetsBack .quit .quit
  | display {fault : DisplayFault} : SetsBack (.display fault) (.display fault)

/-- The failures of a screen are the same at a desk. -/
def Fails (fault : DisplayFault) (setback : Setback) : Prop := setback = .display fault

variable {follows : σ → Scripts → Prop} {saves : Bool}

/-- Failures of the screen in a command are those of the screen at a desk. -/
theorem display_simulates {drawing : Drawing σ α} {image : Act Desk Setback α}
    (alike : drawing.Simulates (Attends follows saves) Fails image) :
    (display drawing).Simulates (Attends follows saves) SetsBack image := by
  refine .mapError_left alike ?_
  rintro fault _ rfl
  exact .display

/-- A session that ends as a desk does has the result that the reading says. -/
theorem result_of_alike {ending : Ending} {ended : DisplayFault} {desk : Desk}
    {left : Except SessionFault (Option Exit) × Session σ}
    (alike : Act.Alike (Serves follows saves) SetsBack left (ending.outcome ended, desk)) :
    left.1 = ending.result ended ∧ Serves follows saves left.2 desk := by
  rcases left with ⟨result, final⟩
  cases ending with
  | exit how =>
      cases alike with
      | value serves => exact ⟨rfl, serves⟩
  | tooSmall size =>
      cases alike with
      | failure setsBack serves =>
          cases setsBack
          exact ⟨rfl, serves⟩
  | ranOut =>
      cases alike with
      | failure setsBack serves =>
          cases setsBack
          exact ⟨rfl, serves⟩

/-- The act keeps a world sound, and its borders where they are. -/
def Steady (act : Act World Refusal Unit) : Prop :=
  ∀ world : World, world.Sound →
    (act.apply world).2.Sound ∧ (act.apply world).2.grid.bounds = world.grid.bounds

theorem steady_operation (operation : World.Operation) : Steady operation.act :=
  fun world sound => ⟨sound.after operation, World.bounds_after world operation⟩

/-- What happens behind the window happens in the world of the desk. -/
theorem onWindow_simulates {act : Act Window Refusal Unit} {image : Act World Refusal Unit}
    (acts : act.Simulates Window.Fronts (· = ·) image) (steady : Steady image) :
    (onWindow act : Act (Session σ) Refusal Unit).Simulates (Attends follows saves) (· = ·)
      (Desk.onWorld image) := by
  intro session desk attends
  have done := acts session.window desk.world attends.world
  obtain ⟨sound, bounds⟩ := steady desk.world attends.sound
  have after : ∀ {window : Window}, window.world = (image.apply desk.world).2 →
      Attends follows saves { session with window := window }
        { desk with world := (image.apply desk.world).2 } := by
    intro window fronts
    refine ⟨⟨fronts, attends.screen, sound, ?_⟩, attends.unhurried⟩
    rw [← attends.saves]
    exact canSave_eq session rfl (by rw [fronts, bounds, attends.world]) rfl
  rw [onWindow, Desk.onWorld, Act.apply_onPart, Act.apply_onPart]
  generalize act.apply session.window = left at done ⊢
  generalize image.apply desk.world = right at done after ⊢
  cases done with
  | value fronts => exact .value (after fronts)
  | failure same fronts => exact .failure same (after fronts)

/-! ## What is not seen at a desk -/

/-- A change that concerns neither the world nor the screen, the speed or the files is not seen. -/
theorem update_simulates {ε : Type} {causes : ε → Setback → Prop} {step : Session σ → Session σ}
    (world : ∀ session, (step session).window.world = session.window.world)
    (screen : ∀ session, (step session).screen = session.screen)
    (speed : ∀ session, (step session).settings.speed = session.settings.speed)
    (output : ∀ session, (step session).settings.output = session.settings.output)
    (directories : ∀ session, (step session).records.storage.directories =
      session.records.storage.directories) :
    (Act.update step : Act (Session σ) ε Unit).Simulates (Attends follows saves) causes
      (pure ()) := by
  intro session desk attends
  refine .value ⟨⟨(world session).trans attends.world, ?_, attends.sound, ?_⟩,
    (speed session).trans attends.unhurried⟩
  · rw [screen]
    exact attends.screen
  · rw [canSave_eq session (output session) (by rw [world]) (directories session)]
    exact attends.saves

theorem note_simulates {ε : Type} {causes : ε → Setback → Prop} (event : Log.Event) :
    (note event : Act (Session σ) ε Unit).Simulates (Attends follows saves) causes (pure ()) :=
  update_simulates (fun _ => rfl) (fun _ => rfl) (fun _ => rfl) (fun _ => rfl) fun session =>
    directories_note session.records event

section Follows

variable [Screen σ] (device : Follows follows)
include device

/-- Nothing that is drawn is seen. -/
theorem Draws.simulates {drawing : Drawing σ Unit} {strokes : Session σ → List Stroke}
    (draws : ∀ session, Draws session drawing (strokes session)) :
    drawing.Simulates (Attends follows saves) Fails (pure ()) := by
  intro session desk attends
  refine .of_ok ((draws session).ensures ?_)
  refine (device.paint _ _ attends.screen).mono ?_ fun _ _ => id
  exact fun _ screen followed => ⟨rfl, attends.onScreen followed⟩

theorem message_simulates (text : String) (style : MessageStyle) :
    (message text style : Command σ Unit).Simulates (Attends follows saves) SetsBack (pure ()) :=
  display_simulates (Draws.simulates device fun _ => draws_message text style)

/-! ## Keys -/

theorem nextKey_simulates :
    (onScreen (Screen.nextKey none) : Drawing σ (Option Key)).Simulates (Attends follows saves)
      Fails Desk.nextKey := by
  intro session desk attends
  have asked := device.key session.screen desk.scripts attends.screen
  rw [onScreen, Act.apply_onPart, Desk.nextKey, Act.apply_ofFunction]
  rcases applied : (Screen.nextKey none).apply session.screen with ⟨fault | key, screen⟩
  · obtain ⟨none, rfl, followed⟩ := asked.of_error applied
    dsimp only
    rw [none]
    exact .failure rfl (attends.onScreen followed)
  · obtain ⟨rest, left, followed⟩ := asked.of_ok applied
    dsimp only
    rw [left]
    exact .value (attends.onScreen followed)

theorem timedKey_simulates (limit : Nat) :
    (onScreen (Screen.nextKey (some limit)) : Drawing σ (Option Key)).Simulates
      (Attends follows saves) Fails Desk.timedKey := by
  intro session desk attends
  refine .of_ok (.onScreen ?_)
  refine (device.timedKey limit _ _ attends.screen).mono ?_ fun _ _ => id
  rintro key screen ⟨given, followed⟩
  exact ⟨given, attends.onScreen followed⟩

theorem size_simulates :
    (onScreen Screen.size : Drawing σ ScreenSize).Simulates (Attends follows saves) Fails
      Desk.size := by
  intro session desk attends
  refine .of_ok (.onScreen ?_)
  refine (device.size _ _ attends.screen).mono ?_ fun _ _ => id
  rintro size screen ⟨given, followed⟩
  exact ⟨given, attends.onScreen followed⟩

theorem prompt_simulates (text : String) (style : MessageStyle) :
    (prompt text style : Command σ Unit).Simulates (Attends follows saves) SetsBack
      Desk.prompt := by
  refine .bind (display_simulates ?_) fun key => ?_
  · refine .bind_left (Draws.simulates device fun _ => draws_message _ style) ?_
    rw [← bind_pure Desk.nextKey]
    refine .bind (nextKey_simulates device) fun key => ?_
    exact .bind_left (Draws.simulates device fun _ => draws_message "" .status) (.pure key)
  · split
    next => exact .throw .quit
    next => exact .pure ()

theorem showError_simulates (text : String) :
    (showError text : Command σ Unit).Simulates (Attends follows saves) SetsBack Desk.prompt :=
  .bind_left (display_simulates (Draws.simulates device fun _ => .stroke .alert))
    (prompt_simulates device text .error)

theorem tick_simulates :
    (tick : Command σ Unit).Simulates (Attends follows saves) SetsBack Desk.tick := by
  intro session desk attends
  rw [tick, Act.apply_bind, apply_delay, SessionSettings.delay?_of_unhurried attends.unhurried]
  refine (Act.Simulates.bind (display_simulates (timedKey_simulates device 0)) fun key => ?_)
    session desk attends
  split
  next => exact .throw .quit
  next => exact prompt_simulates device "PAUSED" .status
  next quits pauses =>
    rw [if_neg quits, if_neg pauses]
    exact .pure ()

/-! ## Commands -/

/-- What is shown after a success is not seen. -/
theorem report_simulates (label : String) (changes : Redraw) :
    (display do
      redraw changes
      showStatus label
      onScreen Screen.present : Command σ Unit).Simulates (Attends follows saves) SetsBack
      (pure ()) :=
  display_simulates (Draws.simulates device fun _ =>
    (draws_redraw changes).andThen ((draws_status label).andThen (.stroke .present)))

/-- A command that changes something on the screen does in the world behind the window what its act
does there. -/
theorem execute_performs {label : String} {changes : Redraw} (shows : changes ≠ .nothing)
    {act : Act Window Refusal Unit} {image : Act World Refusal Unit}
    (acts : act.Simulates Window.Fronts (· = ·) image) (steady : Steady image) :
    (execute label changes act : Command σ Unit).Simulates (Attends follows saves) SetsBack
      (Desk.perform image) := by
  refine .bind (.attempt (onWindow_simulates acts steady)) fun result => ?_
  cases result with
  | error refusal =>
      exact .bind_left (note_simulates _)
        (.bind (showError_simulates device _) fun _ => .throw .refused)
  | ok value =>
      refine .ask_left fun robot => .bind_left (note_simulates _) ?_
      refine .bind_left (report_simulates device label changes) ?_
      dsimp only
      rw [if_pos shows, bind_pure_unit]
      exact tick_simulates device

/-- The verbosity is not seen. -/
theorem toggleVerbosity_simulates :
    (do let _ ← toggleVerbosity : Command σ Unit).Simulates (Attends follows saves) SetsBack
      (pure ()) := by
  unfold toggleVerbosity
  simp only [bind_assoc, pure_bind]
  refine .ask_left fun old => .bind_left ?_ (.bind_left (display_simulates ?_) (.pure ()))
  · exact update_simulates (fun _ => rfl) (fun _ => rfl) (fun _ => rfl) (fun _ => rfl) fun _ => rfl
  · exact Draws.simulates device fun _ => .ask (fun _ => rfl)
      ((Draws.stroke (.message _ "" .status)).andThen ((draws_status "TOGGLE").andThen
        (.stroke .present)))

/-- The world is saved, or the user is told why not. -/
theorem save_simulates :
    (do let _ ← save none : Command σ Unit).Simulates (Attends follows saves) SetsBack
      (if saves then pure () else Desk.tell) := by
  intro session desk attends
  have written := writeWorld_ensures session
  rw [save, bind_assoc, Act.apply_bind, Act.apply_attempt]
  rcases applied : (writeWorld none).apply session with ⟨fault | path, next⟩
  · obtain ⟨unable, rfl⟩ := written.of_error applied
    obtain rfl : saves = false := attends.saves.symm.trans unable
    dsimp only
    simp only [bind_assoc]
    exact Act.Simulates.bind_left (note_simulates _)
      (.bind (showError_simulates device _) fun _ _ _ told => .failure .save told) _ _ attends
  · obtain ⟨able, storage, same, rfl⟩ := written.of_ok applied
    obtain rfl : saves = true := attends.saves.symm.trans able
    dsimp only
    simp only [bind_assoc, pure_bind]
    have after : Attends follows true
        { session with records := { session.records with storage := storage } } desk := by
      refine ⟨⟨attends.world, attends.screen, attends.sound, ?_⟩, attends.unhurried⟩
      rw [← able]
      exact canSave_eq session rfl rfl same
    exact Act.Simulates.bind_left (note_simulates _)
      (.bind_left (message_simulates device _ .status) (.pure ())) _ _ after

/-- The window is fitted to the screen, or the screen is found to be too small. -/
theorem resize_simulates :
    (resize : Command σ Unit).Simulates (Attends follows saves) SetsBack Desk.resize := by
  refine .bind (display_simulates (size_simulates device)) fun size => ?_
  intro session desk attends
  have inside := attends.sound.contains_position
  rw [← attends.world] at inside
  rw [Act.apply_bind, Act.apply_ask]
  dsimp only
  by_cases noRoom : size.columns < 1 ∨ size.rows < 3
  · rw [if_pos noRoom, if_pos ((hasNoRoom_iff size inside).mpr noRoom)]
    exact .failure .display attends
  · rw [if_neg noRoom, if_neg (mt (hasNoRoom_iff size inside).mp noRoom)]
    refine Act.Simulates.bind_left ?_ (.bind_left ?_ ?_) session desk attends
    · exact update_simulates (fun _ => rfl) (fun _ => rfl) (fun _ => rfl) (fun _ => rfl) fun _ => rfl
    · exact display_simulates (Draws.simulates device fun _ => .stroke .clear)
    · exact execute_performs device Redraw.noConfusion (.pure ()) fun _ sound => ⟨sound, rfl⟩

/-! ## Answering keys -/

/-- What a key asks of a session and what it means at a desk. -/
inductive Corresponds (follows : σ → Scripts → Prop) (saves : Bool) : Request σ → Meaning → Prop
  | leave {exit : Exit} : Corresponds follows saves (.leave exit) (.leave exit)
  | perform {command : Command σ Unit} {meaning : Meaning}
      (obeys : (do command; pure none : Command σ (Option Exit)).Simulates
        (Attends follows saves) SetsBack (Desk.obey saves meaning)) :
      Corresponds follows saves (.perform command) meaning

/-- A command is an operation if its act is that of the operation. -/
theorem execute_operates {label : String} {changes : Redraw} (shows : changes ≠ .nothing)
    {act : Act Window Refusal Unit} {operation : World.Operation}
    (acts : act.Simulates Window.Fronts (· = ·) operation.act) :
    Corresponds follows saves (.perform (execute label changes act) : Request σ)
      (.operate operation) :=
  .perform (.bind (execute_performs device shows acts (steady_operation operation)) fun _ =>
    .pure none)

/-- Every key asks for what it means. -/
theorem request_corresponds (key : Key) :
    Corresponds follows saves (request key : Request σ) (meaning key) := by
  have nothing {command : Command σ Unit}
      (unseen : command.Simulates (Attends follows saves) SetsBack (pure ())) :
      Corresponds follows saves (.perform command) .nothing :=
    .perform (.bind_left unseen (.pure none))
  unfold request
  -- The keys are taken in the order in which `request` has them.
  split
  next => exact .leave
  next => exact .leave
  next => exact execute_operates device Redraw.noConfusion Window.move_simulates
  next => exact execute_operates device Redraw.noConfusion (Window.mapWorld_simulates _)
  next => exact execute_operates device Redraw.noConfusion (Window.mapWorld_simulates _)
  next => exact execute_operates device Redraw.noConfusion (Window.tryWorld_simulates _)
  next => exact execute_operates device Redraw.noConfusion (Window.tryWorld_simulates _)
  next => exact .perform (.bind (prompt_simulates device "PAUSED" .status) fun _ => .pure none)
  next => exact .perform (.bind (save_simulates device) fun _ => .pure none)
  next => exact execute_operates device Redraw.noConfusion (Window.mapWorld_simulates _)
  next => exact execute_operates device Redraw.noConfusion (Window.mapWorld_simulates _)
  next => exact execute_operates device Redraw.noConfusion (Window.mapWorld_simulates _)
  next => exact nothing (toggleVerbosity_simulates device)
  next => exact .perform (.bind (resize_simulates device) fun _ => .pure none)
  next => exact .perform (.bind (resize_simulates device) fun _ => .pure none)
  next => exact nothing (message_simulates device help .status)
  next => exact nothing (message_simulates device help .status)
  next digit _ _ _ _ _ _ _ _ _ _ _ =>
    simp only [meaning, *]
    split
    next => exact execute_operates device Redraw.noConfusion (Window.mapWorld_simulates _)
    next => exact nothing (.pure ())
  next => exact nothing (.pure ())

/-- A session answers a key as a desk does: it goes on after what the user has been told. -/
theorem respond_simulates (key : Key) :
    (respond key : Command σ (Option Exit)).Simulates (Attends follows saves) SetsBack
      (Desk.respond saves key) := by
  intro session desk attends
  have corresponds : Corresponds follows saves (request key) (meaning key) :=
    request_corresponds device key
  rw [respond, Desk.apply_respond]
  generalize (request key : Request σ) = asked at corresponds ⊢
  generalize meaning key = said at corresponds ⊢
  cases corresponds with
  | leave => exact .value attends
  | @perform command _ obeys =>
      have alike := obeys session desk attends
      rw [Act.apply_bind] at alike
      dsimp only
      rw [Act.apply_bind, Act.apply_attempt]
      generalize command.apply session = left at alike ⊢
      generalize (Desk.obey saves said).apply desk = right at alike ⊢
      rcases left with ⟨fault | _, next⟩
      · cases alike with
        | failure setsBack onward =>
            cases setsBack with
            | refused => exact .value onward
            | save => exact .value onward
            | quit => exact .value onward
            | display => exact .failure .display onward
      · cases alike with
        | value onward => exact .value onward

theorem answerKeys_simulates (limit : Nat) :
    (answerKeys limit : Command σ (Option Exit)).Simulates (Attends follows saves) SetsBack
      (Desk.answerKeys saves limit) := by
  induction limit with
  | zero => exact .pure none
  | succ limit inductionHypothesis =>
      refine .bind (display_simulates (nextKey_simulates device)) fun pressed => ?_
      cases pressed with
      | none => exact inductionHypothesis
      | some key =>
          refine .bind (respond_simulates device key) fun exit => ?_
          cases exit with
          | none => exact inductionHypothesis
          | some exit => exact .pure (some exit)

/-- Interactive mode answers keys as the desk does, whatever the speed is before and after. -/
theorem interactive_simulates (limit : Nat) :
    (interactive limit : Command σ (Option Exit)).Simulates (Serves follows saves) SetsBack
      (Desk.answerKeys saves limit) := by
  intro session desk serves
  have shown := message_simulates device "INTERACTIVE  Press q to quit, p to pause" .status _ desk
    (⟨serves.withSpeed none, rfl⟩ : Attends follows saves _ desk)
  rw [interactive, Act.apply_bind, Act.apply_ask]
  dsimp only
  rw [replaceSpeed, Act.apply_bind, Act.apply_update]
  dsimp only
  rw [Act.apply_bind]
  generalize Act.apply (message (σ := σ) _ _) _ = left at shown ⊢
  cases shown with
  | @value _ next _ attends =>
    have alike := answerKeys_simulates device limit next desk attends
    dsimp only
    rw [Act.apply_bind, Act.apply_attempt]
    generalize (answerKeys limit).apply next = left at alike ⊢
    generalize (Desk.answerKeys saves limit).apply desk = right at alike ⊢
    cases alike with
    | value onward => exact .value (onward.withSpeed session.settings.speed)
    | failure setsBack onward =>
      exact .failure setsBack (onward.withSpeed session.settings.speed)

/-- On a screen that follows scripts, interactive mode does what the reading of the keys says: it has
the result of that reading, leaves the same world behind, and has asked for the same keys and sizes.
It has to be allowed more keys than there are. -/
theorem interactive_reads {session : Session σ} (reachable : session.window.world.Reachable)
    {scripts : Scripts} (followed : follows session.screen scripts) {limit : Nat}
    (enough : scripts.keys.length < limit) :
    ∃ ending last rest final,
      Reading.readAll session.canSave
          ⟨session.window.world, false, scripts.timedKeys, scripts.sizes⟩ scripts.keys =
        (ending, last, rest) ∧
      (interactive limit).apply session = (ending.result scripts.ended, final) ∧
      final.window.world = last.world ∧
      follows final.screen ⟨rest, last.timedKeys, last.sizes, scripts.ended⟩ := by
  let start : Reading := ⟨session.window.world, false, scripts.timedKeys, scripts.sizes⟩
  have serves : Serves follows session.canSave session (start.desk scripts.ended scripts.keys) :=
    ⟨rfl, followed, reachable.sound, rfl⟩
  have alike := interactive_simulates device limit session _ serves
  rw [Desk.answerKeys_eq limit enough rfl] at alike
  rcases read : start.readAll session.canSave scripts.keys with ⟨ending, last, rest⟩
  rw [read] at alike
  obtain ⟨result, serving⟩ := result_of_alike alike
  exact ⟨ending, last, rest, _, rfl, Prod.ext result rfl, serving.world, serving.screen⟩

end Follows

/-- The screen of a drill: after a wait without a key Karel moves, which is paused and continued, and
meets the border, which is read by pressing `h`; it puts a beeper, the world is not saved, the window
is fitted to the screen, and interactive mode is left. -/
def drillScreen : Script where
  size := ⟨40, 12⟩
  keys := [none, some .up, some (.character 'x'), some .up, some (.character 'h'),
    some (.character 'u'), some (.character 'w'), some .down, some (.character 'R'),
    some (.character 'I'), some (.character 'q')]
  timedKeys := [some (.character 'p'), none]
  failures := []
  hasBell := true
  events := []

/-- A session for a drill in the corridor. -/
def drill : Session Script :=
  ⟨.onWorld World.corridorWorld .standard, drillScreen, .standard, .ofStorage .empty⟩

/-- The drill ends where interactive mode is left, with Karel on a beeper in the second cell of the
corridor, and the last key is not asked for. -/
theorem interactive_reads_drill :
    drill.window.world.Reachable ∧
      Script.Tells drill.screen ⟨drillScreen.keys, drillScreen.timedKeys,
        fun _ => drillScreen.size, .device "key script ran out"⟩ ∧
      drillScreen.keys.length < 12 ∧
      ∃ final, (interactive 12).apply drill = (.ok (some .stopped), final) ∧
        final.window.world.robot.position = ⟨1, 0⟩ ∧
        final.window.world.beeperIsPresent = true ∧
        final.screen.keys = [some (.character 'q')] := by
  have reachable : drill.window.world.Reachable :=
    (World.Created.empty rfl : World.Created (.finite 2 1) World.corridorWorld).reachable
  have tells : Script.Tells drill.screen ⟨drillScreen.keys, drillScreen.timedKeys,
      fun _ => drillScreen.size, .device "key script ran out"⟩ :=
    ⟨rfl, rfl, rfl, fun _ => rfl, rfl⟩
  have enough : drillScreen.keys.length < 12 := by decide
  obtain ⟨ending, last, rest, final, read, applied, world, told⟩ :=
    interactive_reads Script.follows reachable tells enough
  have stopped : ending = .exit .stopped := (congrArg Prod.fst read).symm.trans rfl
  have position : last.world.robot.position = ⟨1, 0⟩ :=
    (congrArg (·.2.1.world.robot.position) read).symm.trans (by decide)
  have present : last.world.beeperIsPresent = true :=
    (congrArg (·.2.1.world.beeperIsPresent) read).symm.trans (by decide)
  have left : rest = [some (.character 'q')] := (congrArg (·.2.2) read).symm.trans rfl
  refine ⟨reachable, tells, enough, final, ?_, ?_, ?_, ?_⟩
  · rw [applied, stopped]
    rfl
  · rw [world, position]
  · rw [world, present]
  · rw [told.keys, left]

end Karel.Session
