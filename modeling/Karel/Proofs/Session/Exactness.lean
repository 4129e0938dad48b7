import Karel.Proofs.Console.Sheet

/-!
# The screen is always right

On a canvas every command leaves its session intact, or fails because the canvas has refused to draw
in a cell of the window. `execute_ensures` says so of the commands that do something in the world,
`Task.keeps` of everything that a session can be told, and `Opened.intact` of every sequence of tasks
from the opening of a session on.
-/

namespace Karel.Session

open Console

variable {σ α : Type} [Screen σ] {canvas : Canvas σ} {session : Session σ}

/-- To wait for a key leaves the session intact. -/
theorem Intact.nextKey (intact : Intact canvas session) (limit : Option Nat) :
    (Session.onScreen (Screen.nextKey limit)).Ensures session (fun _ next => Intact canvas next)
      fun _ _ => False :=
  intact.onScreen (canvas.nextKey limit session.screen)

/-- Neither texts nor keys nor records matter to what the canvas shows. -/
theorem undisturbed (canvas : Canvas σ) : Undisturbed (Intact canvas) (Ends canvas) where
  congr := Intact.congr
  fails_congr := Ends.congr
  stop := .intact
  recover ends other := by
    cases ends with
    | intact intact => exact intact
    | spoiled _ => exact absurd rfl (other _)
  draws intact draws lines := .of_never (intact.draws draws fun stroke member =>
    isText_of_isLine (lines stroke member))
  nextKey limit _ intact := .of_never (intact.nextKey limit)

/-- After a redraw of all that is stale the session is intact. -/
theorem redraw_ensures {changes : Redraw} (reachable : session.window.Reachable)
    (addressable : session.window.Addressable) (clean : canvas.refused session.screen = none)
    (upTo : session.window.UpTo (canvas.picture session.screen) changes) :
    (redraw changes).Ensures session (fun _ next => Intact canvas next)
      fun _ next => Spoiled canvas next := by
  refine (draws_redraw changes).ensures ((canvas.paint _ session.screen).mono ?_ ?_)
  · rintro _ next ⟨picture, refused⟩
    refine ⟨reachable, addressable, refused.trans clean, ?_⟩
    rw [picture]
    exact Window.depicts_redraw addressable reachable.framed upTo
  · rintro cause next ⟨stroke, member, ⟨column, row⟩, drawn, refused⟩
    refine ⟨column, row, refused, ?_⟩
    exact Window.covers_of_mem_redraw addressable reachable.framed member drawn

/-- A command keeps the session intact if its act makes no more stale than the command redraws. -/
theorem execute_ensures (label : String) {changes : Redraw} {act : Act Window Refusal α}
    (clean : canvas.refused session.screen = none)
    (stale : act.Ensures session.window
      (fun _ next => next.Reachable ∧ next.Addressable ∧
        next.UpTo (canvas.picture session.screen) changes)
      fun _ next => next.Reachable ∧ next.Addressable ∧
        next.Depicts (canvas.picture session.screen)) :
    (execute label changes act).Ensures session (fun _ next => Intact canvas next)
      (Ends canvas) := by
  refine (undisturbed canvas).execute label (stale.mono ?_ ?_)
  · rintro _ _ ⟨reachable, addressable, upTo⟩ next rfl screen
    rw [← screen] at clean upTo
    exact (redraw_ensures reachable addressable clean upTo).mono (fun _ _ => id) fun _ _ => .spoiled
  · rintro _ _ ⟨reachable, addressable, depicts⟩
    exact ⟨reachable, addressable, clean, depicts⟩

/-- A command that is an operation on the window keeps the session intact. -/
theorem keeps_operation (label : String) (operation : Window.Operation)
    (fixed : ∀ width height, operation ≠ .resize width height) :
    Keeps canvas (execute label operation.changes operation.act : Command σ Unit) := by
  intro session intact
  obtain ⟨reachable, addressable, clean, depicts⟩ := intact
  have reached := reachable.after operation
  have small := addressable.after fixed
  have stale := operation.act_ensures depicts
  refine execute_ensures label clean ?_
  unfold Window.after at reached small
  unfold Act.Ensures at stale ⊢
  rcases applied : operation.act.apply session.window with ⟨refusal | value, next⟩ <;>
    rw [applied] at stale reached small <;> exact ⟨reached, small, stale⟩

/-- On a cleared screen, drawing everything makes the session intact with its new window. -/
theorem keeps_resize : Keeps canvas (resize : Command σ Unit) := by
  refine (undisturbed canvas).resize (fun _ => Intact canvas) ?_ ?_ ?_
  · exact fun session intact => (intact.onScreen (canvas.size session.screen)).of_never
  · exact fun _ _ intact _ => intact
  · rintro size session _ intact ⟨width, height, rfl⟩ fits
    refine .onScreen ((canvas.stroke .clear session.screen).mono ?_ ?_)
    · rintro _ cleared ⟨-, refused⟩ next window screen
      have reachable := intact.reachable.after (.resize width height)
      have upTo : next.window.UpTo (canvas.picture next.screen) .everything := trivial
      refine (redraw_ensures ?_ ?_ ?_ upTo).mono (fun _ _ => id) fun _ _ => .spoiled
      · exact window ▸ reachable
      · exact window ▸ fits.addressable
      · exact (congrArg canvas.refused screen).trans (refused.trans intact.clean)
    · rintro cause next ⟨cell, drawn, -⟩
      cases drawn

/-- Everything that can be done to the window keeps the session intact. -/
theorem upkeep (canvas : Canvas σ) : Upkeep (Intact canvas) (Ends canvas) where
  toUndisturbed := undisturbed canvas
  operation := keeps_operation
  resize := keeps_resize

/-- Everything that a session can be told keeps it intact. -/
theorem Task.keeps (task : Task) : Keeps canvas (task.act : Command σ Unit) :=
  (upkeep canvas).task task

/-- How a session starts: on a reachable window that the screen can address, before anything was
drawn. -/
structure Fresh (canvas : Canvas σ) (session : Session σ) : Prop where
  reachable : session.window.Reachable
  addressable : session.window.Addressable
  clean : canvas.refused session.screen = none

/-- A session that was opened, and then told tasks of any kind. The canvas has drawn everything that
it was told to draw. -/
inductive Opened (canvas : Canvas σ) : Session σ → Prop
  | opened {session next} (fresh : Fresh canvas session)
      (done : opening.apply session = (.ok (), next)) : Opened canvas next
  | told {session next result} (opened : Opened canvas session) (task : Task)
      (done : task.act.apply session = (result, next))
      (drawn : canvas.refused next.screen = none) : Opened canvas next

/-- The opening leaves an intact session, or fails before anything is drawn or because the canvas has
refused to draw in a cell of the window. -/
theorem Fresh.opening_ensures (fresh : Fresh canvas session) :
    opening.Ensures session (fun _ next => Intact canvas next) fun _ next =>
      canvas.refused next.screen = none ∨ Spoiled canvas next := by
  have asked : ∀ {session}, Fresh canvas session → ∀ {α : Type} {act : Act σ DisplayFault α},
      act.Ensures session.screen (fun _ next =>
        canvas.refused next = canvas.refused session.screen) (fun _ _ => False) →
      (onScreen act).Ensures session (fun _ next => Fresh canvas next) fun _ _ => False := by
    rintro session ⟨reachable, addressable, clean⟩ α act steady
    refine .onScreen (steady.mono ?_ fun _ _ => id)
    exact fun _ next refused => ⟨reachable, addressable, refused.trans clean⟩
  have fits : checkFits.Ensures session (fun _ next => Fresh canvas next) fun _ next =>
      canvas.refused next.screen = none ∨ Spoiled canvas next := by
    refine .bind_of_ok (asked fresh ((canvas.size session.screen).mono (fun _ _ => And.right)
      fun _ _ => id)) fun size _ fresh => .ask_bind ?_
    split
    next => exact .inl fresh.clean
    next => exact .pure fresh
  refine .bind fits fun _ fits fresh => ?_
  refine .bind_of_ok (asked fresh ((canvas.stroke .clear fits.screen).mono (fun _ _ => And.right)
    ?_)) fun _ cleared fresh => ?_
  · rintro cause next ⟨cell, drawn, -⟩
    cases drawn
  · have upTo : cleared.window.UpTo (canvas.picture cleared.screen) .everything := trivial
    have drawn := redraw_ensures fresh.reachable fresh.addressable fresh.clean upTo
    refine .bind (drawn.mono (fun _ _ => id) fun _ _ => .inr) fun _ drawn intact => ?_
    exact .of_never (intact.draws (.stroke .present)
      (List.forall_mem_singleton.mpr isText_present))

theorem Opened.intact (opened : Opened canvas session) : Intact canvas session := by
  induction opened with
  | opened fresh done => exact fresh.opening_ensures.of_ok done
  | @told session next result _ task done drawn inductionHypothesis =>
      have kept := task.keeps session inductionHypothesis
      cases result with
      | ok value => exact kept.of_ok done
      | error cause =>
          cases kept.of_error done with
          | intact intact => exact intact
          | spoiled spoiled =>
              obtain ⟨column, row, refused, -⟩ := spoiled
              rw [drawn] at refused
              cases refused

/-- In every session that was opened, after every sequence of tasks and whether they succeed or not,
each cell of the window shows what a full redraw would put there: Karel in its own cell, and in every
other cell the tile that is there. No screen is ever told to draw outside the window: a cell that a
canvas refuses, be it while the session is opened or at any moment of a task, is one of the
window. -/
theorem picture_exact (canvas : Canvas σ) :
    (∀ session, Opened canvas session →
      session.window.Depicts (canvas.picture session.screen)) ∧
    (∀ session, Opened canvas session → ∀ (task : Task) column row,
      canvas.refused (task.act.apply session).2.screen = some (column, row) →
        (task.act.apply session).2.window.Covers column row) ∧
    ∀ session, Fresh canvas session → ∀ column row,
      canvas.refused (opening.apply session).2.screen = some (column, row) →
        (opening.apply session).2.window.Covers column row := by
  refine ⟨fun session opened => opened.intact.depicts, ?_, ?_⟩
  · intro session opened task column row refused
    have kept := task.keeps session opened.intact
    rcases done : task.act.apply session with ⟨cause | value, next⟩ <;> rw [done] at refused
    · cases kept.of_error done with
      | intact intact =>
          rw [intact.clean] at refused
          cases refused
      | spoiled spoiled => exact spoiled.covers refused
    · rw [(kept.of_ok done).clean] at refused
      cases refused
  · intro session fresh column row refused
    have kept := fresh.opening_ensures
    rcases done : opening.apply session with ⟨cause | value, next⟩ <;> rw [done] at refused
    · rcases kept.of_error done with clean | spoiled
      · rw [clean] at refused
        cases refused
      · exact spoiled.covers refused
    · rw [(kept.of_ok done).clean] at refused
      cases refused

/-- A window on the corner of a plane, on a sheet that is broken right of the window. -/
def cornerSession : Session Sheet where
  window := Window.cornerWindow
  screen := .blank ⟨80, 25⟩ [.up] (some (3, 0))
  settings := .standard
  records := .ofStorage .empty

/-- The session on the broken sheet can be opened, and after a move the sheet shows Karel in its new
cell and the tiles around it. -/
theorem picture_exact_corner :
    ∃ session : Session Sheet, opening.apply cornerSession = (.ok (), session) ∧
      (Task.move.act.apply session).2.window.Depicts
        (Task.move.act.apply session).2.screen.cells := by
  have fresh : Fresh Sheet.canvas cornerSession := {
    reachable := Window.reachable_cornerWindow
    addressable := ⟨by decide, by decide⟩
    clean := rfl }
  have works : (opening.apply cornerSession).1 = .ok () := by decide +kernel
  have drawn : Sheet.canvas.refused
      (Task.move.act.apply (opening.apply cornerSession).2).2.screen = none := by decide +kernel
  rcases done : opening.apply cornerSession with ⟨result, session⟩
  rw [done] at works drawn
  obtain rfl : result = .ok () := works
  have moved : Opened Sheet.canvas (Task.move.act.apply session).2 :=
    .told (.opened fresh done) .move (Prod.eta _).symm drawn
  exact ⟨session, rfl, (picture_exact Sheet.canvas).1 _ moved⟩

end Karel.Session
