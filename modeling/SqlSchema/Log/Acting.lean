import SqlSchema.Log.Logged

/-!
# Work that uses a logger

`Acting ε α` is work with a logger at hand. It may ask the logger if a level is written, write to it
and change its indentation, each whenever it likes, so it may also leave an indentation behind or do
different things at different levels. It keeps the lines written so far. Work may fail, and it may come
to nothing at all, which is no failure.

A scope is a course of such steps (`Acting.scope`): its indentation is taken back behind the work in
it, which is only attempted, so that a failure cannot skip this.
-/

namespace SqlSchema

open Log

/-- A logger and the lines written so far. -/
structure Log.Journal where
  logger : Logger
  lines : List Line := []
  deriving DecidableEq

/-- Work that uses a logger. -/
abbrev Acting (ε : Type) := ExceptT ε (StateT Journal Option)

/-- What comes of work on a logger. -/
structure Played (ε α : Type) where
  outcome : Except ε α
  logger : Logger
  lines : List Line

namespace Acting

variable {ε δ α : Type}

/-- Does the work on a logger. -/
def playOn (x : Acting ε α) (g : Logger) : Option (Played ε α) :=
  (x.run.run { logger := g }).map fun r => ⟨r.1, r.2.logger, r.2.lines⟩

/-- Asks if lines of a level are written. -/
def allows (level : Level) : Acting ε Bool := do
  let j ← get
  pure (j.logger.allows level)

def indent : Acting ε Unit :=
  modify fun j => { j with logger := j.logger.indent }

def dedent : Acting ε Unit :=
  modify fun j => { j with logger := j.logger.dedent }

/-- Writes a line at the present indentation, if its level is written. -/
def log (level : Level) (component : Component) (message : Message) : Acting ε Unit := do
  if ← allows level then
    modify fun j =>
      { j with lines := j.lines ++ [⟨j.logger.depth, level, component, message⟩] }

def note (level : Level) (component : Component) (text : String) : Acting ε Unit :=
  log level component (.text text)

def ofExcept (outcome : Except ε α) : Acting ε α :=
  liftM outcome

/-- Does the work up to its end or its failure, and tells which of them it was. -/
def attempt (x : Acting δ α) : Acting ε (Except δ α) :=
  ExceptT.lift x.run

/-- Gives a failure as an error of another kind. -/
def mapError (f : ε → δ) (x : Acting ε α) : Acting δ α := do
  let result ← x.attempt
  ofExcept (result.mapError f)

/-- Writes a text about the error if the work fails. -/
def onError (x : Acting ε α) (level : Level) (component : Component) (text : ε → String) :
    Acting ε α := do
  let result ← x.attempt
  match result with
  | .ok a => pure a
  | .error e =>
    note level component (text e)
    throw e

/-- Begins a scope, indented if its level is written, and tells if it is. -/
def enter (level : Level) (component : Component) (name : String) : Acting ε Bool := do
  let started ← allows level
  if started then
    log level component (.opened name)
    indent
  pure started

def leave (started : Bool) (level : Level) (component : Component) (name : String) :
    Acting ε Unit := do
  if started then
    dedent
    log level component (.closed name)

/-- Does the work inside a named scope, which is left also if the work fails. -/
def scope (level : Level) (component : Component) (name : String) (x : Acting ε α) :
    Acting ε α := do
  let started ← enter level component name
  let result ← x.attempt
  leave started level component name
  ofExcept result

end Acting

end SqlSchema
