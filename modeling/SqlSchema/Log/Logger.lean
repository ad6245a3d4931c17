import SqlSchema.Log.Line

/-!
# The logger

The logger knows the current level and the depth of the open scopes. Work need not have it at hand:
what it would log can be described as a list of steps, and `Step.run` plays the steps on a logger.
-/

namespace SqlSchema.Log

/-- The current level and the number of open scopes. -/
structure Logger where
  level : Level := .off
  depth : Nat := 0
  deriving DecidableEq

namespace Logger

/-- Lines of this level are written. -/
def allows (g : Logger) (l : Level) : Bool :=
  l ≠ .off && decide (l ≤ g.level)

/-- The lines that a message leads to: itself or nothing. -/
def write (g : Logger) (l : Level) (component : Component) (message : Message) : List Line :=
  if g.allows l then [⟨g.depth, l, component, message⟩] else []

def indent (g : Logger) : Logger :=
  { g with depth := g.depth + 1 }

/-- One scope less; without an open scope nothing changes. -/
def dedent (g : Logger) : Logger :=
  { g with depth := g.depth - 1 }

/-- Begins a scope, which indents if its level is enabled now. -/
def enter (g : Logger) (l : Level) (component : Component) (scope : String) : Logger × List Line :=
  if g.allows l then (g.indent, g.write l component (.opened scope)) else (g, [])

/-- Ends a scope. `entered` tells if it was enabled when it began. -/
def leave (g : Logger) (entered : Bool) (l : Level) (component : Component) (scope : String) :
    Logger × List Line :=
  if entered then (g.dedent, g.dedent.write l component (.closed scope)) else (g, [])

end Logger

/-- What work asks of the log. `σ` are the settings of the level that it may make: for work that
only writes, there are none. -/
inductive Step (σ : Type) where
  | setLevel (setting : σ)
  | note (level : Level) (component : Component) (text : String)
  | scope (level : Level) (component : Component) (name : String) (body : List (Step σ))

/-- A step that writes and never changes the level. -/
abbrev Entry := Step Empty

mutual

/-- Plays a step: the logger after it and the lines written. `levelOf` reads a setting. -/
def Step.run {σ : Type} (levelOf : σ → Level) : Step σ → Logger → Logger × List Line
  | .setLevel setting, g => ({ g with level := levelOf setting }, [])
  | .note l component text, g => (g, g.write l component (.text text))
  | .scope l component name body, g =>
    let entry := g.enter l component name
    let inner := Step.runAll levelOf body entry.1
    let exit := inner.1.leave (g.allows l) l component name
    (exit.1, entry.2 ++ inner.2 ++ exit.2)

/-- Plays steps one after the other. -/
def Step.runAll {σ : Type} (levelOf : σ → Level) : List (Step σ) → Logger → Logger × List Line
  | [], g => (g, [])
  | step :: steps, g =>
    let first := step.run levelOf g
    let others := Step.runAll levelOf steps first.1
    (others.1, first.2 ++ others.2)

end

/-- The lines that entries lead to. -/
def Logger.lines (g : Logger) (entries : List Entry) : List Line :=
  (Step.runAll Empty.elim entries g).2

end SqlSchema.Log
