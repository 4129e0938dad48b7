import Karel.Console.Script
import Karel.Proofs.Session.Strokes

/-!
# Screens that follow scripts

What a session is told by its screen can be written down before: which keys the waits will give, with
and without a limit, and which sizes the screen will have when it is asked. A screen that follows such
scripts never fails, but for a wait without a limit when no key is left for it. Scripted screens whose
script has no failures are of this kind.
-/

namespace Karel.Console

variable {σ : Type}

/-- What a screen is going to tell. -/
structure Scripts where
  /-- The keys for waits without a limit. -/
  keys : List (Option Key)
  /-- The keys for waits with a limit. After the last of them no key is pressed in time. -/
  timedKeys : List (Option Key)
  /-- The sizes that the screen will have when it is asked for them. -/
  sizes : Nat → ScreenSize
  /-- How a wait without a limit fails when there is no key for it. -/
  ended : DisplayFault

namespace Scripts

/-- What is left when these keys are left for waits without a limit. -/
def withKeys (scripts : Scripts) (keys : List (Option Key)) : Scripts :=
  { scripts with keys := keys }

/-- What is left after a wait with a limit. -/
def afterTimedKey (scripts : Scripts) : Scripts :=
  { scripts with timedKeys := scripts.timedKeys.tail }

/-- What is left after a question for the size. -/
def afterSize (scripts : Scripts) : Scripts :=
  { scripts with sizes := fun question => scripts.sizes (question + 1) }

end Scripts

/-- The states in which a screen follows scripts: what it tells is what the scripts say next, and
nothing else that it is told changes this. -/
structure Follows [Screen σ] (follows : σ → Scripts → Prop) : Prop where
  size : ∀ screen scripts, follows screen scripts →
    Act.Ensures Screen.size screen
      (fun size next => size = scripts.sizes 0 ∧ follows next scripts.afterSize) fun _ _ => False
  stroke : ∀ (stroke : Stroke) screen scripts, follows screen scripts →
    stroke.act.Ensures screen (fun _ next => follows next scripts) fun _ _ => False
  timedKey : ∀ limit screen scripts, follows screen scripts →
    Act.Ensures (Screen.nextKey (some limit)) screen
      (fun key next => key = scripts.timedKeys.head?.join ∧ follows next scripts.afterTimedKey)
      fun _ _ => False
  key : ∀ screen scripts, follows screen scripts →
    Act.Ensures (Screen.nextKey none) screen
      (fun key next => ∃ rest, scripts.keys = key :: rest ∧ follows next (scripts.withKeys rest))
      fun fault next => scripts.keys = [] ∧ fault = scripts.ended ∧ follows next scripts

/-- A screen that follows scripts makes all strokes. -/
theorem Follows.paint [Screen σ] {follows : σ → Scripts → Prop} (device : Follows follows)
    {scripts : Scripts} (strokes : List Stroke) (screen : σ) (followed : follows screen scripts) :
    (paint strokes).Ensures screen (fun _ next => follows next scripts) fun _ _ => False := by
  induction strokes generalizing screen with
  | nil => exact .pure followed
  | cons stroke rest inductionHypothesis =>
      exact .bind (device.stroke stroke screen scripts followed) fun _ next =>
        inductionHypothesis next

namespace Script

/-- The scripts that a scripted screen follows if it has no failures to come. -/
structure Tells (script : Script) (scripts : Scripts) : Prop where
  failures : script.failures = []
  keys : script.keys = scripts.keys
  timedKeys : script.timedKeys = scripts.timedKeys
  sizes : ∀ question, script.size = scripts.sizes question
  ended : scripts.ended = .device "key script ran out"

variable {script : Script} {scripts : Scripts}

/-- An operation that is counted does not fail if no failure is to come. -/
theorem Tells.count (tells : script.Tells scripts) (operation : Operation) :
    (Script.count operation).Ensures script (fun _ next => next.Tells scripts)
      fun _ _ => False := by
  obtain ⟨failures, keys, timedKeys, sizes, ended⟩ := tells
  unfold Act.Ensures Script.count
  rw [Act.apply_ofFunction, failures]
  exact ⟨rfl, keys, timedKeys, sizes, ended⟩

/-- What is written down has no part in what will be told. -/
theorem Tells.note (tells : script.Tells scripts) (event : ScreenEvent) :
    (Script.note event).Ensures script (fun _ next => next.Tells scripts) fun _ _ => False :=
  ⟨tells.failures, tells.keys, tells.timedKeys, tells.sizes, tells.ended⟩

theorem Tells.stroke (tells : script.Tells scripts) (stroke : Stroke) :
    stroke.act.Ensures script (fun _ next => next.Tells scripts) fun _ _ => False := by
  have noted : ∀ operation event, Act.Ensures (do Script.count operation; Script.note event) script
      (fun _ next => next.Tells scripts) fun _ _ => False :=
    fun operation event => .bind (tells.count operation) fun _ _ after => after.note event
  cases stroke with
  | clear => exact noted _ _
  | draw column row glyph => exact noted _ _
  | message row text style => exact noted _ _
  | present => exact noted _ _
  | alert =>
      refine .ask_bind ?_
      split
      next => exact noted _ _
      next => exact .pure tells

/-- A scripted screen without failures follows its scripts. -/
theorem follows : Follows Tells where
  size script scripts tells :=
    .bind (tells.count .size) fun _ next after => .ask ⟨after.sizes 0, after.failures, after.keys,
      after.timedKeys, fun question => (after.sizes (question + 1)), after.ended⟩
  stroke stroke script scripts tells := tells.stroke stroke
  timedKey limit script scripts tells := by
    refine .bind (tells.count .key) fun _ counted after => ?_
    have taken : takeTimed.Ensures counted (fun key next =>
        key = scripts.timedKeys.head?.join ∧ next.Tells scripts.afterTimedKey)
        fun _ _ => False := by
      refine ⟨by rw [after.timedKeys], after.failures, after.keys, ?_, after.sizes, after.ended⟩
      exact congrArg List.tail after.timedKeys
    refine .bind taken fun key next told => .bind (told.2.note _) fun _ noted after => ?_
    exact .pure ⟨told.1, after⟩
  key script scripts tells := by
    refine .bind_of_ok (tells.count .key) fun _ counted after => ?_
    have taken : takeKey.Ensures counted (fun key next =>
        ∃ rest, scripts.keys = key :: rest ∧ next.Tells (scripts.withKeys rest))
        fun fault next => scripts.keys = [] ∧ fault = scripts.ended ∧ next.Tells scripts := by
      unfold Act.Ensures takeKey
      rw [Act.apply_ofFunction]
      cases left : counted.keys with
      | nil => exact ⟨after.keys.symm.trans left, after.ended.symm, after⟩
      | cons key rest =>
          exact ⟨rest, after.keys.symm.trans left, after.failures, rfl, after.timedKeys,
            after.sizes, after.ended⟩
    refine .bind taken fun key next ⟨rest, left, told⟩ => ?_
    exact .bind_of_ok (told.note _) fun _ noted after => .pure ⟨rest, left, after⟩

end Script

end Karel.Console
