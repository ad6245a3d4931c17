import SqlSchema.Log.Level
import SqlSchema.Name.Reserved
import SqlSchema.Text.Form

/-!
# Settings of the shell

The log level and the reserved words come from the environment, and an argument can replace the
level. A value that makes no sense is ignored.
-/

namespace SqlSchema.Shell

open Log Text

structure Config where
  level : Level := .off
  reserved : ReservedWords := .none
  deriving DecidableEq

/-- The variable with the log level of this program. -/
def levelVariable : String := "STREAMSQL_LOG"

/-- The variable with the log level of programs in general. -/
def generalLevelVariable : String := "RUST_LOG"

/-- The variable with the reserved words. -/
def reservedVariable : String := "STREAMSQL_RESERVED_WORDS"

/-- The start of the argument that sets the level. -/
def levelOption : String := "--debug="

def splitCommas (cs : List Char) : List String :=
  (cs.splitOn ',').map String.ofList

/-- The text after the start, if it starts so. -/
def afterStart? (start text : List Char) : Option (List Char) :=
  match start, text with
  | [], text => some text
  | _, [] => none
  | c :: cs, d :: ds => if c = d then afterStart? cs ds else none

namespace Config

/-- The settings of an environment. The general variable for the level counts only if the other is
not there. -/
def ofEnvironment (lookup : String → Option String) : Config where
  level :=
    (((lookup levelVariable).or (lookup generalLevelVariable)).bind Level.parse?).getD .off
  reserved :=
    match lookup reservedVariable with
    | some words => .ofList (splitCommas words.toList)
    | none => .none

/-- The level that an argument sets. -/
def levelOfArgument? (argument : String) : Option Level :=
  (afterStart? levelOption.toList argument.toList).bind fun level =>
    Level.parse? (String.ofList level)

/-- The settings with the level of the first argument that sets one. -/
def withArguments (config : Config) (arguments : List String) : Config :=
  match arguments.findSome? levelOfArgument? with
  | some level => { config with level }
  | none => config

def form (config : Config) : Form :=
  .record "ShellConfig" [
    ("debug_level", .word (levelName config.level)),
    ("format", .record "FormatOptions" [
      ("reserved", .set (config.reserved.words.map .text))])]
where
  /-- The name of a level, as its case is called. -/
  levelName : Level → String
    | .off => "Off"
    | .error => "Error"
    | .warn => "Warn"
    | .info => "Info"
    | .debug => "Debug"
    | .trace => "Trace"

end Config

/-- The settings of the shell: those of the environment, with the level of the arguments. -/
def settings (lookup : String → Option String) (arguments : List String) : Config :=
  (Config.ofEnvironment lookup).withArguments arguments

end SqlSchema.Shell
