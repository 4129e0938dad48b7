import Karel.Proofs.Session.Fitting
import Karel.Proofs.Session.Ledger

/-!
# Fitting the window to the screen

A session that is told to fit its window to the screen asks for the size first. On a screen without
room nothing happens but the failure. Otherwise the window is given a size that the screen has room
for, and from then on no stroke leaves the screen until its size is asked for again, whatever the
session is told: `resize_settles`. What a session asks of its screen is read off the transcript, by
`Obeys`, and a transcriber is a surface whose strokes obey.
-/

namespace Karel

open Console

variable {σ : Type} {past entries : List Entry} {last size : ScreenSize}

namespace Console

/-- The size that is known after an operation. -/
def Entry.after (last : ScreenSize) : Entry → ScreenSize
  | .size (.ok told) => told
  | .size (.error _) | .stroke .. | .key .. => last

/-- The size that is known after some operations: the one that was told last. -/
def toldLast (last : ScreenSize) (entries : List Entry) : ScreenSize := entries.foldl Entry.after last

theorem toldLast_concat (entry : Entry) :
    toldLast last (entries ++ [entry]) = entry.after (toldLast last entries) :=
  List.foldl_concat ..

/-- Nothing else is known as long as the size is not asked for. -/
theorem toldLast_of_not_isSize (others : ∀ entry ∈ entries, entry.isSize = false) :
    toldLast last entries = last := by
  induction entries with
  | nil => rfl
  | cons entry rest inductionHypothesis =>
    obtain ⟨first, following⟩ := List.forall_mem_cons.mp others
    cases entry with
    | size _ => cases first
    | stroke _ _ | key _ _ => exact inductionHypothesis following

/-- Every stroke was acceptable on a screen of the size that was told last before it. -/
def Obeys (accepts : ScreenSize → Stroke → Prop) (last : ScreenSize) (entries : List Entry) : Prop :=
  ∀ before stroke outcome rest, entries = before ++ .stroke stroke outcome :: rest →
    accepts (toldLast last before) stroke

variable {accepts : ScreenSize → Stroke → Prop}

theorem obeys_nil : Obeys accepts last [] :=
  fun _ _ _ _ split => absurd split.symm (List.append_ne_nil_of_right_ne_nil _ nofun)

/-- One more operation, which is an acceptable stroke if it is a stroke. -/
theorem Obeys.concat (obeys : Obeys accepts last entries) {entry : Entry}
    (accepted : ∀ stroke outcome, entry = .stroke stroke outcome →
      accepts (toldLast last entries) stroke) : Obeys accepts last (entries ++ [entry]) := by
  intro before stroke outcome rest split
  rcases List.eq_nil_or_concat rest with rfl | ⟨rest, final, rfl⟩
  · obtain ⟨rfl, same⟩ := List.append_inj' split rfl
    exact accepted stroke outcome (List.head_eq_of_cons_eq same)
  · rw [List.concat_eq_append, ← List.cons_append, ← List.append_assoc] at split
    exact obeys before stroke outcome rest (List.append_inj' split rfl).1

/-- The size that is known of a transcriber, if it was that size when its transcript was this. -/
def Transcriber.span (past : List Entry) (last : ScreenSize) (transcriber : Transcriber σ) :
    ScreenSize :=
  toldLast last (transcriber.transcript.drop past.length)

/-- Since the transcript was this, every stroke was acceptable. -/
def Transcriber.Sound (accepts : ScreenSize → Stroke → Prop) (past : List Entry) (last : ScreenSize)
    (transcriber : Transcriber σ) : Prop :=
  ∃ news, transcriber.transcript = past ++ news ∧ Obeys accepts last news

/-- What is written down next is known next. -/
theorem Transcriber.Sound.concat {transcriber : Transcriber σ} {entry : Entry} (screen : σ)
    (sound : transcriber.Sound accepts past last)
    (accepted : ∀ stroke outcome, entry = .stroke stroke outcome →
      accepts (transcriber.span past last) stroke) :
    (⟨screen, transcriber.transcript ++ [entry]⟩ : Transcriber σ).Sound accepts past last ∧
      (⟨screen, transcriber.transcript ++ [entry]⟩ : Transcriber σ).span past last =
        entry.after (transcriber.span past last) := by
  obtain ⟨news, transcript, obeys⟩ := sound
  have known : transcriber.span past last = toldLast last news := by
    rw [span, transcript, List.drop_left]
  have longer : transcriber.transcript ++ [entry] = past ++ (news ++ [entry]) := by
    rw [transcript, List.append_assoc]
  rw [known] at accepted ⊢
  refine ⟨⟨news ++ [entry], longer, obeys.concat accepted⟩, ?_⟩
  rw [span, longer, List.drop_left, toldLast_concat]

/-- A transcriber knows the size that it has told last. -/
theorem surface_transcriber [Screen σ] (accepts : ScreenSize → Stroke → Prop) (past : List Entry)
    (last : ScreenSize) :
    Surface (σ := Transcriber σ) (Transcriber.span past last) (Transcriber.Sound accepts past last)
      accepts fun _ => True where
  size _ sound :=
    transcribe_ensures (fun _ next => sound.concat next nofun) fun _ next =>
      ⟨trivial, sound.concat next nofun⟩
  nextKey _ _ sound :=
    transcribe_ensures (fun _ next => sound.concat next nofun) fun _ next =>
      ⟨trivial, sound.concat next nofun⟩
  stroke stroke transcriber sound accepted := by
    rw [act_eq_transcribe]
    refine transcribe_ensures (fun _ next => sound.concat next ?_) fun _ next =>
      ⟨trivial, sound.concat next ?_⟩
    · rintro _ _ ⟨⟩
      exact accepted
    · rintro _ _ ⟨⟩
      exact accepted

end Console

namespace Window

variable {window : Window}

/-- A window is another one that was fitted to a screen of some size: it shows the same world, is no
larger than that, has room on the screen with the lines below it, and still has Karel in it. -/
structure Fitted (window : Window) (size : ScreenSize) (next : Window) : Prop where
  world : next.world = window.world
  width_pos : 1 ≤ next.width.toInt
  height_pos : 1 ≤ next.height.toInt
  width_le : ∀ bound ∈ window.world.grid.bounds.width, next.width.toInt ≤ bound.toInt
  height_le : ∀ bound ∈ window.world.grid.bounds.height, next.height.toInt ≤ bound.toInt
  fits : next.Fits size
  columns : next.corner.x.toInt ≤ next.world.robot.position.x.toInt ∧
    next.world.robot.position.x.toInt < next.corner.x.toInt + next.width.toInt
  rows : next.corner.y.toInt ≤ next.world.robot.position.y.toInt ∧
    next.world.robot.position.y.toInt < next.corner.y.toInt + next.height.toInt

/-- The window with the greatest sides that a screen has room for and the world has. -/
def fitTo (window : Window) (size : ScreenSize) : Window :=
  window.resize (Session.cutTo (.ofNat size.columns.toNat) window.world.grid.bounds.width)
    (Session.cutTo (.ofNat size.rows.toNat - 2) window.world.grid.bounds.height)

/-- A side that was cut and is not empty is no longer than the axis. -/
theorem toInt_max_cutTo_le {length : Coordinate} {bound : Option Coordinate}
    (nonempty : ¬ Session.cutTo length bound < 1) :
    ∀ last ∈ bound, (max (Session.cutTo length bound) 1).toInt ≤ last.toInt := by
  have one : (1 : Coordinate).toInt = 1 := rfl
  rintro last ⟨⟩
  rw [Int32.lt_iff_toInt_lt, one, Session.cutTo, Coordinate.toInt_min] at nonempty
  rw [Session.cutTo, Coordinate.toInt_max, Coordinate.toInt_min, one]
  omega

/-- Karel stands between the first and the last column in view, and between the first and the last
row. -/
theorem Framed.inView (framed : window.Framed) :
    (window.corner.x.toInt ≤ window.world.robot.position.x.toInt ∧
      window.world.robot.position.x.toInt < window.corner.x.toInt + window.width.toInt) ∧
    window.corner.y.toInt ≤ window.world.robot.position.y.toInt ∧
      window.world.robot.position.y.toInt < window.corner.y.toInt + window.height.toInt := by
  have left : 0 ≤ window.world.robot.position.x.toInt - window.corner.x.toInt :=
    framed.horizontal.start_le_position
  have right : window.world.robot.position.x.toInt - window.corner.x.toInt ≤
    window.width.toInt - 1 := framed.horizontal.position_le_end
  have top : 0 ≤ window.world.robot.position.y.toInt - window.corner.y.toInt :=
    framed.vertical.start_le_position
  have bottom : window.world.robot.position.y.toInt - window.corner.y.toInt ≤
    window.height.toInt - 1 := framed.vertical.position_le_end
  omega

/-- On a screen with room, the window that is made for it is fitted to it. -/
theorem Framed.fitted_fitTo (framed : window.Framed) (room : ¬ size.HasNoRoom) :
    window.Fitted size (window.fitTo size) := by
  obtain ⟨wide, high⟩ := not_or.mp
    (mt (Session.hasNoRoom_iff size framed.contains_position).mp room)
  have resized : (window.fitTo size).Framed := framed.sound.resize _ _
  exact {
    world := rfl
    width_pos := resized.horizontal.size_pos
    height_pos := resized.vertical.size_pos
    width_le := toInt_max_cutTo_le wide
    height_le := toInt_max_cutTo_le high
    fits := Session.fits_resize window size window.world.grid.bounds wide high
    columns := resized.inView.1
    rows := resized.inView.2 }

end Window

namespace Session

section

variable [Screen σ] {session : Session σ} {asked : σ}

/-- Drawing and reading keys leaves the window alone. -/
theorem undisturbed_window (window : Window) :
    Undisturbed (σ := σ) (fun session => session.window = window)
      fun _ session => session.window = window where
  congr same next _ := next.trans same
  fails_congr same next _ := next.trans same
  stop := id
  recover same _ := same
  draws same draws _ := draws.ensures (.of_forall (fun _ _ => same) fun _ _ => same)
  nextKey _ _ same := .onScreen (.of_forall (fun _ _ => same) fun _ _ => same)

/-- What is done once the window fits: the screen is cleared, and everything is drawn again. -/
def showFitted : Command σ Unit := do
  display (onScreen Screen.clear)
  execute "RESIZE" .everything (pure ())

/-- What is done after the size of the screen was told. -/
theorem apply_resize (framed : session.window.Framed)
    (told : Screen.size.apply session.screen = (.ok size, asked)) :
    (size.HasNoRoom → (resize : Command σ Unit).apply session =
      (.error (.display (.tooSmall size ⟨1, 3⟩)), { session with screen := asked })) ∧
    (¬ size.HasNoRoom → (resize : Command σ Unit).apply session =
      showFitted.apply { session with screen := asked, window := session.window.fitTo size }) := by
  have asks : (display (onScreen Screen.size) : Command σ ScreenSize).apply session =
      (.ok size, { session with screen := asked }) := by
    rw [display, Act.apply_mapError, onScreen, Act.apply_onPart, told]
  rw [ScreenSize.HasNoRoom, ← hasNoRoom_iff size framed.contains_position]
  rw [resize, Act.apply_bind, asks]
  dsimp only
  rw [Act.apply_bind, Act.apply_ask]
  dsimp only
  constructor
  · intro small
    rw [if_pos small]
    rfl
  · intro large
    rw [if_neg large]
    rfl

end

variable [Screen σ] {session : Session (Transcriber σ)} {asked : Transcriber σ}

/-- A session on a transcriber fits the size that was told last, and makes only strokes that are on
such a screen, since the transcript was this and the size was that. -/
abbrev FittingSince (past : List Entry) (last : ScreenSize) : Session (Transcriber σ) → Prop :=
  Fitting (Transcriber.span past last) (Transcriber.Sound Permits past last)

/-- To fit a window takes no stroke that is not on the screen. -/
theorem fittingSince_resize (reachable : session.window.Reachable) (room : ¬ size.HasNoRoom)
    (told : Screen.size.apply session.screen = (.ok size, asked)) :
    FittingSince asked.transcript size ((resize : Command (Transcriber σ) Unit).apply session).2 := by
  rw [(apply_resize reachable.framed told).2 room]
  have surface := surface_transcriber (σ := σ) Permits asked.transcript size
  have known : asked.span asked.transcript size = size := by
    rw [Transcriber.span, List.drop_length]
    rfl
  have fitting : FittingSince asked.transcript size
      { session with screen := asked, window := session.window.fitTo size } := by
    refine ⟨reachable.after (.resize _ _), ⟨[], (List.append_nil _).symm, obeys_nil⟩, fun _ => ?_⟩
    rw [known]
    exact (reachable.framed.fitted_fitTo room).fits
  have keeps : (showFitted : Command (Transcriber σ) Unit).Preserves
      (FittingSince asked.transcript size) fun _ => FittingSince asked.transcript size := by
    refine .bind (.mapError fun _ fitting => ?_) fun _ session fitting => ?_
    · exact fitting.draws surface (.stroke .clear)
        (List.forall_mem_singleton.mpr fun _ => trivial)
    · refine (undisturbed_fitting surface).execute "RESIZE" (.pure fun next window screen => ?_)
      exact Fitting.redraw surface (fitting.congr window screen) .everything
  exact keeps.after fitting

/-- Nothing that follows the choice of the window changes it. -/
theorem window_resize (framed : session.window.Framed) (room : ¬ size.HasNoRoom)
    (told : Screen.size.apply session.screen = (.ok size, asked)) :
    ((resize : Command (Transcriber σ) Unit).apply session).2.window = session.window.fitTo size := by
  have calm := undisturbed_window (σ := Transcriber σ) (session.window.fitTo size)
  have keeps : (showFitted : Command (Transcriber σ) Unit).Preserves
      (fun next => next.window = session.window.fitTo size)
      fun _ next => next.window = session.window.fitTo size := by
    refine .bind (.mapError fun _ same => ?_) fun _ _ same => ?_
    · exact (Draws.stroke .clear).ensures (.of_forall (fun _ _ => same) fun _ _ => same)
    · refine calm.execute "RESIZE" (.pure fun next window _ => ?_)
      exact (draws_redraw .everything).ensures
        (.of_forall (fun _ _ => window.trans same) fun _ _ => window.trans same)
  rw [(apply_resize framed told).2 room]
  exact keeps.after rfl

/-- An open session has a reachable window, whatever it was told. -/
theorem reachable_afterTasks (reachable : session.window.Reachable) {opened : Session (Transcriber σ)}
    (done : opening.apply session = (.ok (), opened)) (tasks : List Task) :
    (opened.afterTasks tasks).window.Reachable := by
  have kept : opened.window = session.window :=
    ((opening_ensures (surface_transcriber (fun _ _ => True) session.screen.transcript ⟨0, 0⟩)
      ⟨[], (List.append_nil _).symm, obeys_nil⟩ fun _ _ _ _ => trivial).of_ok done).1
  have fitting : FittingSince opened.screen.transcript ⟨0, 0⟩ opened := by
    refine ⟨kept ▸ reachable, ⟨[], (List.append_nil _).symm, obeys_nil⟩, fun room => ?_⟩
    rw [Transcriber.span, List.drop_length] at room
    exact absurd (.inl (by decide)) room
  exact (fitting.afterTasks (surface_transcriber Permits _ _) tasks).reachable

/-- When a session that fits its window to the screen stops early, the transcript tells why, or no
clock can measure its delay. -/
theorem resize_explained (framed : session.window.Framed) (room : ¬ size.HasNoRoom)
    (told : Screen.size.apply session.screen = (.ok size, asked)) {cause : SessionFault}
    {final : Session (Transcriber σ)}
    (stopped : (resize : Command (Transcriber σ) Unit).apply session = (.error cause, final)) :
    Explained asked.transcript cause final.screen.transcript ∨
      cause = .overlong ∧ session.settings.delay? = none := by
  have ledger := ledger_accounted (σ := σ) asked.transcript session.settings
  have start : Accounted asked.transcript session.settings .zero
      { session with screen := asked, window := session.window.fitTo size } :=
    accounted_self { session with screen := asked, window := session.window.fitTo size }
  have ensured : showFitted.Ensures
      { session with screen := asked, window := session.window.fitTo size } (fun _ _ => True)
      fun cause next => Explained asked.transcript cause next.screen.transcript ∨
        cause = .overlong ∧ session.settings.delay? = none := by
    refine .bind (.mapError ((ledger.draws start (.stroke .clear)).mono (fun _ _ => id) ?_)) ?_
    · exact fun _ _ => .inl
    intro _ next accounted
    refine (ledger.execute "RESIZE" .everything (pure ()) accounted).mono (fun _ _ _ => trivial) ?_
    rintro cause next ((explained | ⟨-, rfl, delay, held⟩) | ⟨refusal, window, refused, -, -⟩)
    · exact .inl explained
    · exact .inr ⟨rfl, held.settings ▸ delay⟩
    · cases refused
  rw [(apply_resize framed told).2 room] at stopped
  exact ensured.of_error stopped

/-- The window of a session was fitted to the size that its screen has told. -/
structure Settles (session : Session (Transcriber σ)) (size : ScreenSize) (asked : Transcriber σ)
    (result : Except SessionFault Unit) (final : Session (Transcriber σ)) : Prop where
  window : session.window.Fitted size final.window
  /-- It stops early only if an operation of the screen fails, the user asks to quit or no clock can
  measure the delay. -/
  stopped : ∀ cause, result = .error cause →
    Explained asked.transcript cause final.screen.transcript ∨
      cause = .overlong ∧ session.settings.delay? = none
  /-- Whatever the session is told from now on, its strokes stay on a screen of that size until the
  size is asked for again. -/
  strokes : ∀ tasks, ∃ news, (final.afterTasks tasks).screen.transcript = asked.transcript ++ news ∧
    ∀ before stroke outcome rest, news = before ++ .stroke stroke outcome :: rest →
      (∀ entry ∈ before, entry.isSize = false) → stroke.Within size

/-- An open session has a reachable window, whatever it was told. If such a session is to fit its
window to the screen, and the screen tells a size without a column or without three rows, then this is
the failure and nothing else happens. With any other size the window is fitted to that size, shows the
same world and still has Karel in it, and all strokes from then on stay on the screen until its size
is asked for again. -/
theorem resize_settles (session : Session (Transcriber σ)) (reachable : session.window.Reachable) :
    (∀ opened, opening.apply session = (.ok (), opened) →
      ∀ tasks, (opened.afterTasks tasks).window.Reachable) ∧
    ∀ size asked, Screen.size.apply session.screen = (.ok size, asked) →
      (size.HasNoRoom → resize.apply session =
        (.error (.display (.tooSmall size ⟨1, 3⟩)), { session with screen := asked })) ∧
      (¬ size.HasNoRoom → Settles session size asked (resize.apply session).1
        (resize.apply session).2) := by
  have framed := reachable.framed
  refine ⟨fun opened done => reachable_afterTasks reachable done, fun size asked told =>
    ⟨(apply_resize framed told).1, fun room => ⟨?_, fun cause stopped => ?_, fun tasks => ?_⟩⟩⟩
  · rw [window_resize framed room told]
    exact framed.fitted_fitTo room
  · exact resize_explained framed room told (Prod.ext stopped rfl)
  · obtain ⟨-, ⟨news, transcript, obeys⟩, -⟩ := (fittingSince_resize reachable room told).afterTasks
      (surface_transcriber Permits _ _) tasks
    refine ⟨news, transcript, fun before stroke outcome rest split others => ?_⟩
    have permitted := obeys before stroke outcome rest split
    rw [toldLast_of_not_isSize others] at permitted
    exact permitted room

/-- A window of three columns and three rows on a sheet with a transcript. -/
def transcribedSession (size : ScreenSize) : Session (Transcriber Sheet) where
  window := (sheetSession 3 3 size none).window
  screen := ⟨(sheetSession 3 3 size none).screen, []⟩
  settings := .standard
  records := .ofStorage .empty

/-- On two columns and four rows the window gets two columns and two rows. There is no room on two
rows. -/
theorem resize_settles_sheet :
    (transcribedSession ⟨2, 4⟩).window.Reachable ∧
    (∃ asked, Screen.size.apply (transcribedSession ⟨2, 4⟩).screen = (.ok ⟨2, 4⟩, asked) ∧
      Settles (transcribedSession ⟨2, 4⟩) ⟨2, 4⟩ asked (resize.apply (transcribedSession ⟨2, 4⟩)).1
        (resize.apply (transcribedSession ⟨2, 4⟩)).2) ∧
    (resize.apply (transcribedSession ⟨2, 2⟩)).1 = .error (.display (.tooSmall ⟨2, 2⟩ ⟨1, 3⟩)) := by
  have reachable : ∀ size, (transcribedSession size).window.Reachable :=
    fun size => reachable_sheetSession 3 3 size none
  have settles := (resize_settles (transcribedSession ⟨2, 4⟩) (reachable _)).2 ⟨2, 4⟩ _ rfl
  have fails := (resize_settles (transcribedSession ⟨2, 2⟩) (reachable _)).2 ⟨2, 2⟩ _ rfl
  refine ⟨reachable _, ⟨_, rfl, settles.2 (not_or.mpr ⟨by decide, by decide⟩)⟩, ?_⟩
  rw [fails.1 (.inr (by decide))]

end Session

end Karel
