import SqlSchema.Shell.Command
import SqlSchema.Shell.Config

/-!
# Sessions

A session shows a banner and then answers line after line. Blank lines are skipped. A line with an
error shows the error, logs its structure and leaves no trace otherwise, so lines do not depend on
each other.
-/

namespace SqlSchema.Shell

open Log

/-- The lines shown at the start of a session. -/
def banner : List String :=
  ["streamsql schema shell", "Type 'help' for commands. Ctrl+D to exit"]

/-- What happens at the start or at a line of a session: what is shown, what is logged, and if it is
the end. -/
structure Turn where
  shown : List String := []
  log : List Entry := []
  quits : Bool := false

/-- The start of a session, which logs the settings. -/
def opening (config : Config) : Turn where
  shown := banner
  log := [
    .note .info .shell ("log level " ++ config.level.label),
    .note .info .shell ("config: " ++ config.form.render)]

def answer (reserved : ReservedWords) (line : String) : Logged Error Reply := do
  (← Command.read line).run reserved

def respond (config : Config) (line : String) : Turn :=
  let line := Text.trim line
  if line = "" then {}
  else
    let result := answer config.reserved line
    match result.outcome with
    | .ok (.text text) => { shown := [text], log := result.log }
    | .ok .quit => { log := result.log, quits := true }
    | .error e =>
      { shown := [e.message], log := result.log ++ [.note .error .shell e.form.render] }

end SqlSchema.Shell
