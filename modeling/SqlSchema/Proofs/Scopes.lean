import SqlSchema.Log.Logger

/-!
# Scopes are balanced

A program for the logger sets the level, notes texts and opens scopes, one inside the other to any
depth. Its `Event`s are what it might write, in order: a line for each note and two for each scope.
Each event happens at a `Moment`, which says what settings were made before it and what scopes are
open around it. So much can be read off the program without playing it.

What is written is then decided event by event (`Event.line?`). A note needs its level to be enabled
by the last setting before it. The end of a scope needs this twice, when the scope is entered and when
it is left, and a scope counts as indentation if its level was enabled when it was entered. Playing a
program writes just these lines and ends at the depth at which it began (`scopes_balance`), although
the logger remembers nothing but a level and a number.
-/

namespace SqlSchema.Log

variable {σ : Type}

/-! ## Events -/

/-- A scope that is open: its level, and the settings made before it was entered. -/
structure OpenScope (σ : Type) where
  level : Level
  settings : List σ

/-- A moment of a program: the settings made before it, and the scopes around it from the inside
out. -/
structure Moment (σ : Type) where
  settings : List σ := []
  scopes : List (OpenScope σ) := []

namespace Moment

def after (m : Moment σ) (settings : List σ) : Moment σ :=
  { m with settings := m.settings ++ settings }

/-- The moment at the beginning of a scope. -/
def inside (m : Moment σ) (l : Level) : Moment σ :=
  { m with scopes := ⟨l, m.settings⟩ :: m.scopes }

theorem after_nil (m : Moment σ) : m.after [] = m := by
  rw [after, List.append_nil]

theorem after_after (m : Moment σ) (ss ts : List σ) : (m.after ss).after ts = m.after (ss ++ ts) := by
  rw [after, after, after, List.append_assoc]

end Moment

/-- What a program might write. -/
inductive Event (σ : Type) where
  | note (moment : Moment σ) (level : Level) (component : Component) (text : String)
  | opening (moment : Moment σ) (level : Level) (component : Component) (name : String)
  /-- The end of a scope, which has to do with the moment of its beginning too. -/
  | closing (entry moment : Moment σ) (level : Level) (component : Component) (name : String)

mutual

/-- The settings that a step makes, in order. -/
def Step.settings : Step σ → List σ
  | .setLevel setting => [setting]
  | .note _ _ _ => []
  | .scope _ _ _ body => Step.settingsAll body

def Step.settingsAll : List (Step σ) → List σ
  | [] => []
  | step :: steps => step.settings ++ Step.settingsAll steps

end

mutual

/-- The events of a step that comes at a moment. -/
def Step.events (m : Moment σ) : Step σ → List (Event σ)
  | .setLevel _ => []
  | .note l component text => [.note m l component text]
  | .scope l component name body =>
    [.opening m l component name] ++ Step.eventsAll (m.inside l) body ++
      [.closing m (m.after (Step.settingsAll body)) l component name]

/-- The events of steps, each of which comes behind the settings of those before. -/
def Step.eventsAll (m : Moment σ) : List (Step σ) → List (Event σ)
  | [] => []
  | step :: steps => step.events m ++ Step.eventsAll (m.after step.settings) steps

end

/-! ## Lines -/

namespace Logger

/-- The level after settings: the one set last, or else that of the logger. -/
def levelAfter (g : Logger) (levelOf : σ → Level) (settings : List σ) : Level :=
  (settings.map levelOf).getLastD g.level

/-- Lines of this level are written after the settings. -/
def Enables (g : Logger) (levelOf : σ → Level) (settings : List σ) (l : Level) : Prop :=
  l ≠ .off ∧ l ≤ g.levelAfter levelOf settings

instance (g : Logger) (levelOf : σ → Level) (settings : List σ) (l : Level) :
    Decidable (g.Enables levelOf settings l) :=
  inferInstanceAs (Decidable (_ ∧ _))

/-- The depth at a moment: one more for each scope around it whose level was enabled when it was
entered. -/
def depthAt (g : Logger) (levelOf : σ → Level) (m : Moment σ) : Nat :=
  g.depth + m.scopes.countP fun s => g.Enables levelOf s.settings s.level

end Logger

/-- The line that an event writes in a program that starts with this logger, if it writes one. -/
def Event.line? (levelOf : σ → Level) (g : Logger) : Event σ → Option Line
  | .note m l component text =>
    if g.Enables levelOf m.settings l then
      some ⟨g.depthAt levelOf m, l, component, .text text⟩
    else none
  | .opening m l component name =>
    if g.Enables levelOf m.settings l then
      some ⟨g.depthAt levelOf m, l, component, .opened name⟩
    else none
  | .closing entry m l component name =>
    if g.Enables levelOf entry.settings l ∧ g.Enables levelOf m.settings l then
      some ⟨g.depthAt levelOf m, l, component, .closed name⟩
    else none

/-! ## Playing a program -/

namespace Logger

/-- What the logger has become at a moment. -/
def during (g : Logger) (levelOf : σ → Level) (m : Moment σ) : Logger :=
  ⟨g.levelAfter levelOf m.settings, g.depthAt levelOf m⟩

variable (g : Logger) (levelOf : σ → Level) (m : Moment σ)

theorem during_start : g.during levelOf {} = g := rfl

theorem allows_during_iff {l : Level} :
    (g.during levelOf m).allows l ↔ g.Enables levelOf m.settings l := by
  unfold allows
  rw [Bool.and_eq_true, decide_eq_true_iff, decide_eq_true_iff]
  exact Iff.rfl

theorem during_setLevel (setting : σ) :
    { g.during levelOf m with level := levelOf setting } =
      g.during levelOf (m.after [setting]) := by
  simp [during, levelAfter, depthAt, Moment.after]

/-- Inside a scope the logger is one deeper if the level was enabled when the scope was entered,
whatever has been set since. -/
theorem during_inside (l : Level) (settings : List σ) :
    g.during levelOf ((m.inside l).after settings) =
      if g.Enables levelOf m.settings l then (g.during levelOf (m.after settings)).indent
      else g.during levelOf (m.after settings) := by
  have hdepth : g.depthAt levelOf ((m.inside l).after settings) =
      g.depthAt levelOf m + if g.Enables levelOf m.settings l then 1 else 0 := by
    simp only [depthAt, Moment.inside, Moment.after, List.countP_cons, decide_eq_true_eq,
      Nat.add_assoc]
  rw [during, hdepth]
  split <;> rfl

theorem write_during (l : Level) (component : Component) (message : Message) :
    (g.during levelOf m).write l component message =
      if g.Enables levelOf m.settings l then [⟨g.depthAt levelOf m, l, component, message⟩]
      else [] := by
  simp only [write, allows_during_iff]
  rfl

theorem enter_during (l : Level) (component : Component) (name : String) :
    (g.during levelOf m).enter l component name = (g.during levelOf (m.inside l),
      (Event.line? levelOf g (.opening m l component name)).toList) := by
  have hinside := g.during_inside levelOf m l []
  rw [Moment.after_nil, Moment.after_nil] at hinside
  simp only [enter, write_during, allows_during_iff, Event.line?, hinside]
  split <;> rfl

/-- A scope that has indented takes this back, and whether its end is written is asked anew. -/
theorem leave_during (l : Level) (component : Component) (name : String) (settings : List σ) :
    (g.during levelOf ((m.inside l).after settings)).leave ((g.during levelOf m).allows l) l
        component name = (g.during levelOf (m.after settings),
      (Event.line? levelOf g (.closing m (m.after settings) l component name)).toList) := by
  simp only [leave, allows_during_iff, during_inside, Event.line?]
  by_cases hl : g.Enables levelOf m.settings l
  · simp only [hl, if_true, true_and]
    show (g.during levelOf (m.after settings),
      (g.during levelOf (m.after settings)).write l component (.closed name)) = _
    rw [write_during]
    split <;> rfl
  · simp only [hl, if_false, false_and]
    rfl

end Logger

theorem filterMap_singleton {α β : Type} (f : α → Option β) (a : α) :
    [a].filterMap f = (f a).toList := by
  rw [List.filterMap_cons]
  cases f a <;> rfl

mutual

/-- A step that comes at a moment leads the logger to the moment behind it, and writes the lines of
its events. -/
theorem Step.run_during (levelOf : σ → Level) (g : Logger) (step : Step σ) (m : Moment σ) :
    step.run levelOf (g.during levelOf m) = (g.during levelOf (m.after step.settings),
      (step.events m).filterMap (Event.line? levelOf g)) := by
  cases step with
  | setLevel setting =>
    rw [Step.run, g.during_setLevel, Step.settings, Step.events]
    rfl
  | note l component text =>
    rw [Step.run, g.write_during, Step.settings, Step.events, Moment.after_nil,
      filterMap_singleton, Event.line?]
    split <;> rfl
  | scope l component name body =>
    rw [Step.run, g.enter_during]
    dsimp only
    rw [Step.runAll_during levelOf g body (m.inside l), g.leave_during, Step.settings, Step.events,
      List.filterMap_append, List.filterMap_append, filterMap_singleton, filterMap_singleton]

theorem Step.runAll_during (levelOf : σ → Level) (g : Logger) (steps : List (Step σ))
    (m : Moment σ) :
    Step.runAll levelOf steps (g.during levelOf m) =
      (g.during levelOf (m.after (Step.settingsAll steps)),
        (Step.eventsAll m steps).filterMap (Event.line? levelOf g)) := by
  cases steps with
  | nil =>
    rw [Step.runAll, Step.settingsAll, Step.eventsAll, Moment.after_nil]
    rfl
  | cons step steps =>
    rw [Step.runAll, Step.run_during levelOf g step m]
    dsimp only
    rw [Step.runAll_during levelOf g steps (m.after step.settings), Moment.after_after,
      Step.settingsAll, Step.eventsAll, List.filterMap_append]

end

theorem Event.level_ne_off {levelOf : σ → Level} {g : Logger} {event : Event σ} {line : Line}
    (h : event.line? levelOf g = some line) : line.level ≠ .off := by
  cases event with
  | note | opening =>
    obtain ⟨hl, h⟩ := Option.ite_none_right_eq_some.1 h
    rw [← Option.some.inj h]
    exact hl.1
  | closing =>
    obtain ⟨hl, h⟩ := Option.ite_none_right_eq_some.1 h
    rw [← Option.some.inj h]
    exact hl.1.1

/-- The tag behind the indentation starts with a terminal code and not with a space. -/
theorem Line.length_indentation {line : Line} (h : line.level ≠ .off) (elapsed : String) :
    ((line.render elapsed).toList.takeWhile (· = ' ')).length = 2 * line.depth := by
  have htag : ∃ rest, line.level.tag.toList = '\x1b' :: rest := by
    cases hl : line.level with
    | off => exact absurd hl h
    | _ => exact ⟨_, rfl⟩
  obtain ⟨rest, hrest⟩ := htag
  simp only [Line.render, indentation, String.toList_append, String.toList_ofList, hrest,
    List.append_assoc, List.cons_append]
  rw [List.takeWhile_append_of_pos (by simp)]
  simp

/-- A program on a logger of any level and depth ends at this depth and at the level that it has set
last. It writes the lines of its events: a note if its level is enabled then, the beginning of a
scope if the level of the scope is, and its end if the level was enabled at the beginning and still
is. The lines are indented by two spaces for each scope around that was enabled when it was entered,
and for each one that was open before the program. -/
theorem scopes_balance (levelOf : σ → Level) (g : Logger) (program : List (Step σ)) :
    (Step.runAll levelOf program g).1 =
        ⟨g.levelAfter levelOf (Step.settingsAll program), g.depth⟩ ∧
      (Step.runAll levelOf program g).2 =
        (Step.eventsAll {} program).filterMap (Event.line? levelOf g) ∧
      ∀ line ∈ (Step.runAll levelOf program g).2, ∀ elapsed,
        ((line.render elapsed).toList.takeWhile (· = ' ')).length = 2 * line.depth := by
  have hrun := Step.runAll_during levelOf g program {}
  rw [g.during_start] at hrun
  rw [hrun]
  refine ⟨rfl, rfl, ?_⟩
  intro line hline elapsed
  obtain ⟨event, -, hevent⟩ := List.mem_filterMap.1 hline
  exact Line.length_indentation (Event.level_ne_off hevent) elapsed

/-- The level is lowered inside a scope, so that the end of the scope is not written. What follows is
as deep as the beginning. -/
example : Step.runAll id [.scope .info .types "outer" [.note .debug .types "a", .setLevel .error,
      .scope .error .types "inner" []], .note .error .types "b"] ⟨.trace, 1⟩ =
    (⟨.error, 1⟩, [⟨1, .info, .types, .opened "outer"⟩, ⟨2, .debug, .types, .text "a"⟩,
      ⟨2, .error, .types, .opened "inner"⟩, ⟨2, .error, .types, .closed "inner"⟩,
      ⟨1, .error, .types, .text "b"⟩]) := rfl

end SqlSchema.Log
