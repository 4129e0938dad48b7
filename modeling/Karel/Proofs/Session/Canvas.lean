import Karel.Proofs.Session.Upkeep

/-!
# Sessions on a canvas

A canvas is a screen of which is known what it shows. On a canvas `Intact` is the invariant of a
session: every cell of its window shows what a full redraw would put there. Every command keeps it,
because it redraws what it has made stale.

A canvas may refuse to draw in a cell. The command then fails at once, so the window that is left is
the one of that moment, and `Spoiled` says that the cell was one of the window. As a canvas may
refuse any cell at any time, a session never tells its screen to draw outside its window.
-/

namespace Karel

open Console

variable {σ ε α β : Type}

/-- A screen that shows in each cell what was drawn there last, and nothing after it was cleared.
Only drawing can fail: then the screen keeps which cell it has refused to draw. -/
structure Console.Canvas (σ : Type) [Screen σ] where
  picture : σ → Picture
  refused : σ → Option (UInt16 × UInt16)
  size : ∀ screen, Act.Ensures Screen.size screen
    (fun _ next => picture next = picture screen ∧ refused next = refused screen) fun _ _ => False
  nextKey : ∀ limit screen, Act.Ensures (Screen.nextKey limit) screen
    (fun _ next => picture next = picture screen ∧ refused next = refused screen) fun _ _ => False
  stroke : ∀ (stroke : Stroke) screen, stroke.act.Ensures screen
    (fun _ next => picture next = stroke.mark (picture screen) ∧ refused next = refused screen)
    fun _ next => ∃ cell, stroke.cell? = some cell ∧ refused next = some cell

namespace Console

/-- A stroke that leaves every cell as it is. -/
def Stroke.IsText (stroke : Stroke) : Prop :=
  stroke.cell? = none ∧ ∀ picture, stroke.mark picture = picture

theorem foldl_mark_of_text {strokes : List Stroke} (text : ∀ stroke ∈ strokes, stroke.IsText)
    (picture : Picture) : strokes.foldl Stroke.mark picture = picture := by
  induction strokes generalizing picture with
  | nil => rfl
  | cons stroke rest inductionHypothesis =>
      rw [List.foldl_cons, (text stroke List.mem_cons_self).2]
      exact inductionHypothesis (fun other member => text other (List.mem_cons_of_mem _ member)) _

variable [Screen σ] (canvas : Canvas σ)

/-- Strokes leave their marks, one after the other, unless one is refused. -/
theorem Canvas.paint (strokes : List Stroke) (screen : σ) :
    (paint strokes).Ensures screen
      (fun _ next => canvas.picture next = strokes.foldl Stroke.mark (canvas.picture screen) ∧
        canvas.refused next = canvas.refused screen)
      fun _ next => ∃ stroke ∈ strokes, ∃ cell, stroke.cell? = some cell ∧
        canvas.refused next = some cell := by
  induction strokes generalizing screen with
  | nil => exact .pure ⟨rfl, rfl⟩
  | cons stroke rest inductionHypothesis =>
      refine .bind ((canvas.stroke stroke screen).mono (fun _ _ => id) ?_) ?_
      · rintro cause next ⟨cell, drawn, refused⟩
        exact ⟨stroke, List.mem_cons_self, cell, drawn, refused⟩
      · rintro _ after ⟨marked, same⟩
        refine (inductionHypothesis after).mono ?_ ?_
        · rintro _ next ⟨picture, refused⟩
          exact ⟨by rw [picture, marked, List.foldl_cons], refused.trans same⟩
        · rintro cause next ⟨stroke, member, found⟩
          exact ⟨stroke, List.mem_cons_of_mem _ member, found⟩

/-- Texts can always be shown, and leave the picture as it is. -/
theorem Canvas.paint_text (strokes : List Stroke) (text : ∀ stroke ∈ strokes, stroke.IsText)
    (screen : σ) : (Console.paint strokes).Ensures screen
      (fun _ next => canvas.picture next = canvas.picture screen ∧
        canvas.refused next = canvas.refused screen) fun _ _ => False := by
  refine (canvas.paint strokes screen).mono ?_ ?_
  · rintro _ next ⟨picture, refused⟩
    exact ⟨picture.trans (foldl_mark_of_text text _), refused⟩
  · rintro cause next ⟨stroke, member, cell, drawn, -⟩
    rw [(text stroke member).1] at drawn
    cases drawn

end Console

namespace Session

variable [Screen σ] {canvas : Canvas σ} {session : Session σ}

/-- Every cell of the window shows what a full redraw would put there, in a session that was opened
on a reachable window of which every place can be addressed. -/
structure Intact (canvas : Canvas σ) (session : Session σ) : Prop where
  reachable : session.window.Reachable
  addressable : session.window.Addressable
  clean : canvas.refused session.screen = none
  depicts : session.window.Depicts (canvas.picture session.screen)

/-- The screen has refused to draw in a cell of the window. -/
def Spoiled (canvas : Canvas σ) (session : Session σ) : Prop :=
  ∃ column row, canvas.refused session.screen = some (column, row) ∧
    session.window.Covers column row

theorem Spoiled.covers (spoiled : Spoiled canvas session) {column row : UInt16}
    (refused : canvas.refused session.screen = some (column, row)) :
    session.window.Covers column row := by
  obtain ⟨otherColumn, otherRow, other, covered⟩ := spoiled
  rw [refused] at other
  cases other
  exact covered

/-- How a command fails: with everything shown as it should be, or because the screen has refused to
draw in a cell of the window. -/
inductive Ends (canvas : Canvas σ) : SessionFault → Session σ → Prop
  | intact {cause session} (intact : Intact canvas session) : Ends canvas cause session
  | spoiled {fault session} (spoiled : Spoiled canvas session) :
      Ends canvas (.display fault) session

/-- The command keeps the session intact, or fails. -/
abbrev Keeps (canvas : Canvas σ) (command : Command σ α) : Prop :=
  command.Preserves (Intact canvas) (Ends canvas)

/-- What changes nothing but settings and records keeps a session intact. -/
theorem Intact.congr {next : Session σ} (intact : Intact canvas session)
    (window : next.window = session.window) (screen : next.screen = session.screen) :
    Intact canvas next := by
  obtain ⟨reachable, addressable, clean, depicts⟩ := intact
  constructor <;> simpa only [window, screen]

theorem Ends.congr {cause : SessionFault} {next : Session σ} (ends : Ends canvas cause session)
    (window : next.window = session.window) (screen : next.screen = session.screen) :
    Ends canvas cause next := by
  cases ends with
  | intact intact => exact .intact (intact.congr window screen)
  | spoiled spoiled =>
      refine .spoiled ?_
      simpa only [Spoiled, window, screen] using spoiled

/-- What the screen leaves as it is leaves the session intact. -/
theorem Intact.onScreen (intact : Intact canvas session) {act : Act σ DisplayFault α}
    (steady : act.Ensures session.screen (fun _ next =>
      canvas.picture next = canvas.picture session.screen ∧
        canvas.refused next = canvas.refused session.screen) fun _ _ => False) :
    (onScreen act).Ensures session (fun _ next => Intact canvas next) fun _ _ => False := by
  refine .onScreen (steady.mono ?_ fun _ _ => id)
  rintro _ next ⟨picture, refused⟩
  obtain ⟨reachable, addressable, clean, depicts⟩ := intact
  exact ⟨reachable, addressable, refused.trans clean, by rwa [picture]⟩

/-- Texts leave the session intact. -/
theorem Intact.draws (intact : Intact canvas session) {drawing : Drawing σ Unit}
    {strokes : List Stroke} (draws : Draws session drawing strokes)
    (text : ∀ stroke ∈ strokes, stroke.IsText) :
    drawing.Ensures session (fun _ next => Intact canvas next) fun _ _ => False := by
  refine draws.ensures ((canvas.paint_text strokes text session.screen).mono ?_ fun _ _ => id)
  rintro _ next ⟨picture, refused⟩
  obtain ⟨reachable, addressable, clean, depicts⟩ := intact
  exact ⟨reachable, addressable, refused.trans clean, by rwa [picture]⟩

theorem isText_present : Stroke.present.IsText := ⟨rfl, fun _ => rfl⟩

omit [Screen σ] in
theorem isText_of_isLine {stroke : Stroke} (line : IsLine session stroke) : stroke.IsText := by
  cases stroke with
  | message _ _ _ | present | alert => exact ⟨rfl, fun _ => rfl⟩
  | clear | draw _ _ _ => exact line.elim

end Session

end Karel
