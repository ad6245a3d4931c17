import SqlSchema.Shell.Process

/-!
# The shell program

Reads lines from standard input and shows what the shell puts out: answers on standard output, the
log on standard error. Scopes report the time that the answer to their line took. The editor of lines
is the plain one of the terminal, which starts always and keeps no history.
-/

namespace SqlSchema.Shell

open Log

def writeOutput (nanoseconds : Nat) (output : Output) : IO Unit := do
  for line in output.logged do
    IO.eprintln (line.render (elapsedText nanoseconds))
  for text in output.shown do
    IO.println text

/-- The line without the line break that ends it. -/
def dropLineBreak (read : String) : String :=
  match read.toList.reverse with
  | '\n' :: '\r' :: back => String.ofList back.reverse
  | '\n' :: back => String.ofList back.reverse
  | _ => read

def readInput (input : IO.FS.Stream) : IO Input := do
  if ← input.isTty then
    IO.print "schema> "
    (← IO.getStdout).flush
  try
    let read ← input.getLine
    return if read.isEmpty then .over else .line (dropLineBreak read)
  catch e =>
    return .failure (toString e)

/-- Takes inputs until the shell has ended. -/
partial def converse (config : Config) (input : IO.FS.Stream) (process : Process) : IO Ending := do
  if let some ending := process.ending then return ending
  let event ← readInput input
  let start ← IO.monoNanosNow
  let (process, output) ← IO.lazyPure fun _ => process.take {} config event
  let stop ← IO.monoNanosNow
  writeOutput (stop - start) output
  converse config input process

end SqlSchema.Shell

open SqlSchema.Shell in
/-- Starts the shell with the settings of the environment and the arguments. -/
def main (arguments : List String) : IO UInt32 := do
  let mut environment : List (String × String) := []
  for name in [levelVariable, generalLevelVariable, reservedVariable] do
    if let some value ← IO.getEnv name then
      environment := (name, value) :: environment
  let config := settings (List.lookup · environment) arguments
  let (process, output) := Process.start {} config
  writeOutput 0 output
  let ending ← converse config (← IO.getStdin) process
  if let some message := ending.message? then
    IO.eprintln message
  return ending.exitCode
