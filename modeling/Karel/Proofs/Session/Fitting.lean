import Karel.Proofs.Console.Sheet

/-!
# Whether a window fits its screen

A session compares the size of its window with that of the screen before it draws. `opening_fits` says
which sessions open: if the window has a cell for each of its places, exactly those whose window fits
in whole numbers, and then the session never names a column or a row that the screen does not have,
whatever it is told. The sides of a larger window are compared by what is left of them in the words of
a screen, so such a window may open although no screen can hold it.
-/

namespace Karel

open Console

variable {σ : Type}

namespace Console

/-- Whether a stroke stays on a screen of some size. -/
def Stroke.Within (size : ScreenSize) : Stroke → Prop
  | draw column row _ => column.toNat < size.columns.toNat ∧ row.toNat < size.rows.toNat
  | message row _ _ => row.toNat < size.rows.toNat
  | clear | present | alert => True

/-- What is known of a screen that is sound: which size it has told last, which strokes it accepts
when it has that size, and how it may fail. Nothing is known of a screen after a stroke that it does
not accept. -/
structure Surface [Screen σ] (span : σ → ScreenSize) (sound : σ → Prop)
    (accepts : ScreenSize → Stroke → Prop) (fails : DisplayFault → Prop) : Prop where
  size : ∀ screen, sound screen → Act.Ensures Screen.size screen
    (fun size next => sound next ∧ span next = size)
    fun fault next => fails fault ∧ sound next ∧ span next = span screen
  nextKey : ∀ limit screen, sound screen → Act.Ensures (Screen.nextKey limit) screen
    (fun _ next => sound next ∧ span next = span screen)
    fun fault next => fails fault ∧ sound next ∧ span next = span screen
  stroke : ∀ (stroke : Stroke) screen, sound screen → accepts (span screen) stroke →
    stroke.act.Ensures screen (fun _ next => sound next ∧ span next = span screen)
      fun fault next => fails fault ∧ sound next ∧ span next = span screen

namespace Surface

variable [Screen σ] {span : σ → ScreenSize} {sound : σ → Prop}
  {accepts : ScreenSize → Stroke → Prop} {fails : DisplayFault → Prop}

/-- A screen stays sound while it accepts the strokes. -/
theorem paint (surface : Surface span sound accepts fails) (strokes : List Stroke) (screen : σ)
    (ready : sound screen) (accepted : ∀ stroke ∈ strokes, accepts (span screen) stroke) :
    (paint strokes).Ensures screen (fun _ next => sound next ∧ span next = span screen)
      fun fault next => fails fault ∧ sound next ∧ span next = span screen := by
  induction strokes generalizing screen with
  | nil => exact .pure ⟨ready, rfl⟩
  | cons stroke rest inductionHypothesis =>
      obtain ⟨first, others⟩ := List.forall_mem_cons.mp accepted
      refine .bind (surface.stroke stroke screen ready first) ?_
      rintro _ next ⟨ready, same⟩
      have painted := inductionHypothesis next ready (same ▸ others)
      rwa [same] at painted

/-- A screen that accepts some strokes accepts fewer. -/
theorem restrict (surface : Surface span sound accepts fails)
    {others : ScreenSize → Stroke → Prop}
    (fewer : ∀ screen stroke, sound screen → others (span screen) stroke →
      accepts (span screen) stroke) : Surface span sound others fails where
  size := surface.size
  nextKey := surface.nextKey
  stroke stroke screen ready accepted :=
    surface.stroke stroke screen ready (fewer screen stroke ready accepted)

end Surface

end Console

namespace Window

variable {window : Window} {size : ScreenSize}

/-- Drawing in a cell of a window that fits stays on the screen. -/
theorem Fits.within (fits : window.Fits size) {stroke : Stroke} {column row : UInt16}
    (drawn : stroke.cell? = some (column, row)) (covered : window.Covers column row) :
    stroke.Within size := by
  obtain ⟨width_le, height_le⟩ := fits
  obtain ⟨left, top⟩ := covered
  cases stroke with
  | draw _ _ _ =>
      cases drawn
      constructor <;> omega
  | clear | message _ _ _ | present | alert => cases drawn

/-- Tiles and Karel are drawn in cells. -/
theorem exists_cell_of_mem_cells (cells : List Point) {stroke : Stroke}
    (member : stroke ∈ cells.flatMap (Session.cellStrokes window) ++ [Session.robotStroke window]) :
    ∃ column row, stroke.cell? = some (column, row) := by
  rcases List.mem_append.mp member with tile | robot
  · obtain ⟨place, _, tile⟩ := List.mem_flatMap.mp tile
    by_cases inside : window.Inside place
    · rw [cellStrokes_of_inside inside, List.mem_singleton] at tile
      exact tile ▸ ⟨_, _, rfl⟩
    · rw [cellStrokes_of_not_inside inside] at tile
      cases tile
  · exact List.mem_singleton.mp robot ▸ ⟨_, _, rfl⟩

/-- To draw a window that fits takes no stroke beyond the screen. -/
theorem Framed.within_of_mem_redraw (framed : window.Framed) (fits : window.Fits size)
    {changes : Session.Redraw} {stroke : Stroke}
    (member : stroke ∈ Session.redrawStrokes window changes) : stroke.Within size := by
  have drawn : ∃ column row, stroke.cell? = some (column, row) := by
    cases changes with
    | nothing => cases member
    | robot => exact exists_cell_of_mem_cells [] member
    | moved =>
        simp only [Session.redrawStrokes] at member
        split at member
        next => exact exists_cell_of_mem_cells _ member
        next =>
          have single : stroke ∈ [window.robotPosition - window.world.robot.facing.step].flatMap
              (Session.cellStrokes window) ++ [Session.robotStroke window] := by
            rwa [List.flatMap_cons, List.flatMap_nil, List.append_nil]
          exact exists_cell_of_mem_cells _ single
    | everything => exact exists_cell_of_mem_cells _ member
  obtain ⟨column, row, drawn⟩ := drawn
  exact fits.within drawn (covers_of_mem_redraw fits.addressable framed member drawn)

end Window

namespace Session

variable [Screen σ] {span : σ → ScreenSize} {sound : σ → Prop}
  {accepts : ScreenSize → Stroke → Prop} {fails : DisplayFault → Prop} {session : Session σ}

/-! ## Opening a session -/

/-- A session opens unless its screen is too small for the words in which the sizes are compared. It
may also fail as its screen does. -/
theorem opening_ensures (surface : Surface span sound accepts fails) (ready : sound session.screen)
    (accepted : ∀ size, ¬ session.window.Exceeds size →
      ∀ stroke ∈ [.clear] ++ (allStrokes session.window ++ [.present]), accepts size stroke) :
    opening.Ensures session
      (fun _ next => next.window = session.window ∧ sound next.screen ∧
        ¬ session.window.Exceeds (span next.screen))
      fun fault next => fails fault ∨
        fault = .tooSmall (span next.screen) session.neededSize ∧
          session.window.Exceeds (span next.screen) := by
  have measured : (onScreen Screen.size).Ensures session (fun size next =>
      (next.window = session.window ∧ sound next.screen) ∧ span next.screen = size)
      fun fault _ => fails fault := by
    refine .onScreen ((surface.size session.screen ready).mono ?_ fun _ _ => And.left)
    exact fun size next ⟨ready, told⟩ => ⟨⟨rfl, ready⟩, told⟩
  have fitted : checkFits.Ensures session (fun _ next =>
      (next.window = session.window ∧ sound next.screen) ∧
        ¬ session.window.Exceeds (span next.screen))
      fun fault next => fails fault ∨
        fault = .tooSmall (span next.screen) session.neededSize ∧
          session.window.Exceeds (span next.screen) := by
    refine .bind (measured.mono (fun _ _ => id) fun _ _ => .inl) ?_
    rintro _ next ⟨⟨window, ready⟩, rfl⟩
    refine .ask_bind ?_
    have needed : next.neededSize = session.neededSize := by
      rw [neededSize, neededSize, window]
    have compared := exceeds_iff_lt_neededSize session (span next.screen)
    rw [← needed] at compared
    split
    next small => exact .inr ⟨by rw [needed], compared.mpr small⟩
    next large => exact .pure ⟨⟨window, ready⟩, mt compared.mp large⟩
  refine .bind fitted ?_
  rintro _ next ⟨⟨window, ready⟩, large⟩
  have draws : Draws next (do
      onScreen Screen.clear
      drawAll
      onScreen Screen.present) ([.clear] ++ (allStrokes next.window ++ [.present])) :=
    (Draws.stroke .clear).andThen (draws_all.andThen (.stroke .present))
  have painted := surface.paint _ next.screen ready (window ▸ accepted _ large)
  refine draws.ensures (painted.mono ?_ fun _ _ failed => .inl failed.1)
  rintro _ screen ⟨ready, same⟩
  exact ⟨window, ready, same ▸ large⟩

/-- On a screen that never fails, the comparison alone decides whether a session opens. -/
theorem opening_eq {size : ScreenSize}
    (surface : Surface (fun _ => size) sound (fun _ _ => True) fun _ => False) (session : Session σ)
    (ready : sound session.screen) :
    (opening.apply session).1 =
      if session.window.Exceeds size then .error (.tooSmall size session.neededSize) else .ok () := by
  have opened := opening_ensures surface ready fun _ _ _ _ => trivial
  rcases applied : opening.apply session with ⟨cause | value, next⟩
  · obtain failed | ⟨rfl, exceeds⟩ := opened.of_error applied
    · exact failed.elim
    · exact (if_pos exceeds).symm
  · exact (if_neg (opened.of_ok applied).2.2).symm

/-! ## Staying on the screen -/

/-- A session whose window fits the size that its screen has told last, if that has room for a
window. -/
structure Fitting (span : σ → ScreenSize) (sound : σ → Prop) (session : Session σ) : Prop where
  reachable : session.window.Reachable
  ready : sound session.screen
  fits : ¬ (span session.screen).HasNoRoom → session.window.Fits (span session.screen)

/-- The strokes that a session may make: on a screen with room for a window, those on the screen. -/
def Permits (size : ScreenSize) (stroke : Stroke) : Prop := ¬ size.HasNoRoom → stroke.Within size

omit [Screen σ] in
theorem Fitting.congr {next : Session σ} (fitting : Fitting span sound session)
    (window : next.window = session.window) (screen : next.screen = session.screen) :
    Fitting span sound next := by
  obtain ⟨reachable, ready, fits⟩ := fitting
  constructor <;> simpa only [window, screen]

omit [Screen σ] in
/-- The lines below a window that fits are on the screen. -/
theorem Fitting.permits_of_isLine (fitting : Fitting span sound session) {stroke : Stroke}
    (line : IsLine session stroke) : Permits (span session.screen) stroke := by
  intro room
  obtain ⟨width_le, height_le⟩ := fitting.fits room
  have height_pos : 1 ≤ session.window.height.toInt :=
    fitting.reachable.framed.vertical.size_pos
  have height := session.window.height.toNat_toCell_eq
  have bound := (span session.screen).rows.toNat_lt
  have one : (1 : UInt16).toNat = 1 := rfl
  cases stroke with
  | message row _ _ =>
      change row.toNat < _
      rcases line with rfl | rfl
      · rw [statusRow]
        omega
      · rw [messageRow, statusRow, UInt16.toNat_add, one]
        omega
  | clear | draw _ _ _ => exact line.elim
  | present | alert => trivial

section Keeps

variable (surface : Surface span sound Permits fails)
include surface

/-- Strokes on the screen leave the session fitting, be they made or not. -/
theorem Fitting.draws (fitting : Fitting span sound session) {drawing : Drawing σ Unit}
    {strokes : List Stroke} (draws : Draws session drawing strokes)
    (permitted : ∀ stroke ∈ strokes, Permits (span session.screen) stroke) :
    drawing.Ensures session (fun _ next => Fitting span sound next)
      fun _ next => Fitting span sound next := by
  obtain ⟨reachable, ready, fits⟩ := fitting
  refine draws.ensures ((surface.paint strokes session.screen ready permitted).mono ?_ ?_)
  · rintro _ screen ⟨ready, same⟩
    exact ⟨reachable, ready, same ▸ fits⟩
  · rintro _ screen ⟨-, ready, same⟩
    exact ⟨reachable, ready, same ▸ fits⟩

theorem Fitting.redraw (fitting : Fitting span sound session) (changes : Redraw) :
    (redraw changes).Ensures session (fun _ next => Fitting span sound next)
      fun _ next => Fitting span sound next :=
  fitting.draws surface (draws_redraw changes) fun _ member room =>
    fitting.reachable.framed.within_of_mem_redraw (fitting.fits room) member

theorem undisturbed_fitting :
    Undisturbed (Fitting span sound) fun _ => Fitting span sound where
  congr := Fitting.congr
  fails_congr := Fitting.congr
  stop := id
  recover fitting _ := fitting
  draws fitting draws lines := fitting.draws surface draws fun stroke member =>
    fitting.permits_of_isLine (lines stroke member)
  nextKey limit session fitting := by
    obtain ⟨reachable, ready, fits⟩ := fitting
    refine .onScreen ((surface.nextKey limit session.screen ready).mono ?_ ?_)
    · rintro _ screen ⟨ready, same⟩
      exact ⟨reachable, ready, same ▸ fits⟩
    · rintro _ screen ⟨-, ready, same⟩
      exact ⟨reachable, ready, same ▸ fits⟩

theorem keeps_fitting_resize :
    (resize : Command σ Unit).Preserves (Fitting span sound) fun _ => Fitting span sound := by
  refine (undisturbed_fitting surface).resize (fun size session =>
    session.window.Reachable ∧ sound session.screen ∧ span session.screen = size) ?_ ?_ ?_
  · rintro session ⟨reachable, ready, fits⟩
    refine .onScreen ((surface.size session.screen ready).mono ?_ ?_)
    · exact fun _ screen told => ⟨reachable, told⟩
    · rintro _ screen ⟨-, ready, same⟩
      exact ⟨reachable, ready, same ▸ fits⟩
  · rintro _ session ⟨reachable, ready, rfl⟩ small
    exact ⟨reachable, ready, fun room => absurd ((hasNoRoom_iff _
      reachable.framed.contains_position).mp small) room⟩
  · rintro _ session _ ⟨reachable, ready, rfl⟩ ⟨width, height, rfl⟩ fits
    have resized := reachable.after (.resize width height)
    refine .onScreen ((surface.stroke .clear session.screen ready fun _ => trivial).mono ?_ ?_)
    · rintro _ screen ⟨ready, same⟩ next window cleared
      refine Fitting.redraw surface (.congr ?_ window cleared) .everything
      exact ⟨resized, ready, fun _ => same ▸ fits⟩
    · rintro _ screen ⟨-, ready, same⟩
      exact ⟨resized, ready, fun _ => same ▸ fits⟩

/-- Everything that a session can do to its window leaves it fitting: only the fitting of the window
to the screen changes its size. -/
theorem upkeep_fitting : Upkeep (Fitting span sound) fun _ => Fitting span sound where
  toUndisturbed := undisturbed_fitting surface
  operation label operation fixed session fitting := by
    obtain ⟨width, height⟩ := session.window.size_after fixed
    have after : Fitting span sound { session with window := session.window.after operation } := by
      refine ⟨fitting.reachable.after operation, fitting.ready, fun room => ?_⟩
      obtain ⟨width_le, height_le⟩ := fitting.fits room
      exact ⟨by rw [width]; exact width_le, by rw [height]; exact height_le⟩
    refine (undisturbed_fitting surface).execute label ?_
    unfold Window.after at after
    unfold Act.Ensures
    rcases applied : operation.act.apply session.window with ⟨refusal | value, window⟩ <;>
      rw [applied] at after
    · exact after
    · exact fun next same screen => (after.congr same screen).redraw surface _
  resize := keeps_fitting_resize surface

end Keeps

/-- What a session has become after it was told tasks, whether they were done or failed. -/
def afterTasks (session : Session σ) (tasks : List Task) : Session σ :=
  tasks.foldl (fun session task => (task.act.apply session).2) session

theorem Fitting.afterTasks (surface : Surface span sound Permits fails)
    (fitting : Fitting span sound session) (tasks : List Task) :
    Fitting span sound (session.afterTasks tasks) := by
  induction tasks generalizing session with
  | nil => exact fitting
  | cons task rest inductionHypothesis =>
      exact inductionHypothesis (((upkeep_fitting surface).task task).after fitting)

omit [Screen σ] in
/-- To open a session on a window that fits takes no stroke beyond the screen. -/
theorem within_of_mem_opening {size : ScreenSize} (framed : session.window.Framed)
    (fits : session.window.Fits size) :
    ∀ stroke ∈ [.clear] ++ (allStrokes session.window ++ [.present]), stroke.Within size := by
  intro stroke member
  rcases List.mem_append.mp member with clear | drawn
  · rw [List.mem_singleton.mp clear]
    trivial
  · rcases List.mem_append.mp drawn with cell | present
    · have redrawn : stroke ∈ redrawStrokes session.window .everything := cell
      exact framed.within_of_mem_redraw fits redrawn
    · rw [List.mem_singleton.mp present]
      trivial

/-- A session that opens fits its screen, and there is room for it, if its window has a cell for each
of its places. -/
theorem fitting_of_opening {size : ScreenSize}
    (surface : Surface (fun _ => size) sound Stroke.Within fails) (ready : sound session.screen)
    (reachable : session.window.Reachable) (addressable : session.window.Addressable)
    {opened : Session σ} (done : opening.apply session = (.ok (), opened)) :
    Fitting (fun _ => size) sound opened ∧ ¬ size.HasNoRoom := by
  have framed := reachable.framed
  have fits : ∀ size, ¬ session.window.Exceeds size → session.window.Fits size :=
    fun size => not_imp_comm.mp (framed.exceeds_iff addressable).mpr
  have ensured := opening_ensures surface ready fun size large =>
    within_of_mem_opening framed (fits size large)
  obtain ⟨window, ready, large⟩ := ensured.of_ok done
  refine ⟨⟨window ▸ reachable, ready, fun _ => window ▸ fits size large⟩, fun noRoom => ?_⟩
  exact framed.not_fits_of_hasNoRoom noRoom (fits size large)

/-- A sheet has its size, and does not fail if it has no broken cell. -/
theorem surface_sheet (size : ScreenSize) : Surface (fun _ => size)
    (fun sheet : Sheet => sheet.size = size ∧ sheet.broken = none) (fun _ _ => True)
    fun _ => False where
  size sheet whole := ⟨whole, whole.1.symm⟩
  nextKey limit sheet whole := ⟨whole, rfl⟩
  stroke stroke sheet whole _ := by
    cases stroke with
    | draw column row glyph =>
        change (Sheet.draw column row glyph).Ensures sheet _ _
        unfold Act.Ensures
        rw [Sheet.draw, Act.apply_ofFunction, if_neg (by rw [whole.2]; exact nofun)]
        exact ⟨whole, rfl⟩
    | clear | message _ _ _ | present | alert => exact ⟨whole, rfl⟩

/-- A sheet that is broken right of its last column has refused nothing as long as all strokes stay on
it. -/
theorem surface_sheet_broken (size : ScreenSize) : Surface (fun _ => size)
    (fun sheet : Sheet => sheet.size = size ∧ sheet.broken = some (size.columns, 0) ∧
      sheet.refused = none) Stroke.Within fun _ => False where
  size sheet whole := ⟨whole, whole.1.symm⟩
  nextKey limit sheet whole := ⟨whole, rfl⟩
  stroke stroke sheet whole within := by
    cases stroke with
    | draw column row glyph =>
        have other : sheet.broken ≠ some (column, row) := by
          rw [whole.2.1]
          rintro ⟨⟩
          exact Nat.lt_irrefl _ within.1
        change (Sheet.draw column row glyph).Ensures sheet _ _
        unfold Act.Ensures
        rw [Sheet.draw, Act.apply_ofFunction, if_neg other]
        exact ⟨whole, rfl⟩
    | clear | message _ _ _ | present | alert => exact ⟨whole, rfl⟩

/-- A window on a plane without borders, shown on an empty sheet. -/
def sheetSession (width height : Coordinate) (size : ScreenSize)
    (broken : Option (UInt16 × UInt16)) : Session Sheet where
  window := .onWorld ⟨.initial, .empty .unbounded⟩ ⟨width, height, 1⟩
  screen := .blank size [.up, .left] broken
  settings := .standard
  records := .ofStorage .empty

theorem reachable_sheetSession (width height : Coordinate) (size : ScreenSize)
    (broken : Option (UInt16 × UInt16)) : (sheetSession width height size broken).window.Reachable :=
  .opened (World.place_eq_ok_iff.mpr ⟨by rw [Grid.get_empty]; rfl, rfl⟩) ⟨width, height, 1⟩

end Session

end Karel
