import SqlSchema.Shell.Session

/-!
# The running shell

The shell asks a line editor for lines one after the other. What it is told may be a line, the end
of the input or a failure to read it. Each line that is not blank goes into the history of the editor
before it is run. Between lines the shell keeps only its logger, the one that all lines share, and it
runs until a line quits, the input ends or the editor fails.
-/

namespace SqlSchema.Shell

open Log

/-- What the shell is told when it asks for a line. -/
inductive Input where
  | line (text : String)
  /-- The input is at its end, or it was interrupted. -/
  | over
  | failure (reason : String)

/-- What a line editor may fail at, other than reading a line. -/
structure Editor where
  /-- Why it does not start, if it does not. -/
  startFailure? : Option String := none
  /-- Why a line does not go into the history, if it does not. -/
  historyFailure? : String → Option String := fun _ => none

/-- Why a line that was read does not go into the history. A blank line is not meant to. -/
def Editor.keepFailure? (editor : Editor) (text : String) : Option String :=
  if Text.trim text = "" then none else editor.historyFailure? (Text.trim text)

/-- How the shell ends. -/
inductive Ending where
  | regular
  | notStarted (reason : String)
  | unread (reason : String)
  | notKept (reason : String)
  deriving DecidableEq

def Ending.exitCode : Ending → UInt32
  | regular => 0
  | _ => 1

/-- What is said about an ending that is not regular. -/
def Ending.message? : Ending → Option String
  | regular => none
  | notStarted reason =>
    some ("Error: failed to start line editor\n\nCaused by:\n    " ++ reason)
  | unread reason => some ("Error: failed to read input\n\nCaused by:\n    " ++ reason)
  | notKept reason => some ("Error: " ++ reason)

/-- What the shell puts out at its start or at an input. -/
structure Output where
  shown : List String := []
  logged : List Line := []

/-- The running shell: its logger, and how it has ended if it has. -/
structure Process where
  logger : Logger
  ending : Option Ending := none
  deriving DecidableEq

namespace Process

/-- Plays the log of a turn on the logger and ends if the turn quits. -/
def play (p : Process) (turn : Turn) : Process × Output :=
  let played := Step.runAll Empty.elim turn.log p.logger
  ({ logger := played.1, ending := if turn.quits then some .regular else p.ending },
    { shown := turn.shown, logged := played.2 })

/-- Starts the editor and then the shell with its settings. -/
def start (editor : Editor) (config : Config) : Process × Output :=
  let fresh : Process := { logger := { level := config.level } }
  match editor.startFailure? with
  | some reason => ({ fresh with ending := some (.notStarted reason) }, {})
  | none => fresh.play (opening config)

def take (editor : Editor) (config : Config) (p : Process) : Input → Process × Output
  | .line text =>
    match editor.keepFailure? text with
    | some reason => ({ p with ending := some (.notKept reason) }, {})
    | none => p.play (respond config text)
  | .over => ({ p with ending := some .regular }, {})
  | .failure reason => ({ p with ending := some (.unread reason) }, {})

/-- Takes inputs until it has ended. -/
def run (editor : Editor) (config : Config) (p : Process) : List Input → Process × List Output
  | [] => (p, [])
  | input :: inputs =>
    if p.ending.isSome then (p, [])
    else
      let next := p.take editor config input
      let rest := next.1.run editor config inputs
      (rest.1, next.2 :: rest.2)

end Process

/-- The shell with an editor on an environment, arguments and inputs: how it is in the end, and what
it put out at its start and then at each input. -/
def shell (editor : Editor) (lookup : String → Option String) (arguments : List String)
    (inputs : List Input) : Process × List Output :=
  let config := settings lookup arguments
  let started := Process.start editor config
  let ended := started.1.run editor config inputs
  (ended.1, started.2 :: ended.2)

end SqlSchema.Shell
