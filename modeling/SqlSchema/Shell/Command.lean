import SqlSchema.Error
import SqlSchema.Syntax.SchemaReader

/-!
# Commands

The lines that the shell understands: a word in any case, then what it applies to. Reading a command
does not read the types and columns in it; that is part of running it.
-/

namespace SqlSchema.Shell

open Log Syntax Text

inductive Command where
  /-- Shows a type in canonical form. -/
  | type (source : String)
  /-- Shows a column list in canonical form. -/
  | schema (source : String)
  /-- Shows the schema of the join of two sources. -/
  | join (left right : String)
  | help
  | quit
  deriving DecidableEq

/-- What a command answers. -/
inductive Reply where
  | text (text : String)
  | quit
  deriving DecidableEq

def helpText : String :=
  "\n".intercalate [
    "commands:",
    "  type <sql type>                   print the canonical form of a type",
    "  schema <columns>                  print the canonical form of a column list",
    "  join <left columns> ; <right columns>",
    "                                    print the output schema of joining two sources",
    "  help                              show this text",
    "  quit | exit                       leave the shell",
    "",
    "columns are written as `name TYPE [KEY], ...`, e.g. `ID BIGINT KEY, NAME STRING`"]

namespace Command

def form : Command → Form
  | type source => .tuple "Type" [.text source]
  | schema source => .tuple "Schema" [.text source]
  | join left right => .record "Join" [("left", .text left), ("right", .text right)]
  | help => .word "Help"
  | quit => .word "Quit"

/-- The first word of a line without blanks at its ends, and the rest, again without. -/
def splitWord (line : List Char) : List Char × List Char :=
  (line.takeWhile fun c => !isBlank c, trimChars (line.dropWhile fun c => !isBlank c))

/-- The two sides of the first semicolon, without blanks around them. -/
def splitSources (cs : List Char) : Option (List Char × List Char) :=
  match cs.dropWhile (· ≠ ';') with
  | [] => none
  | _ :: right => some (trimChars (cs.takeWhile (· ≠ ';')), trimChars right)

/-- The command with a name in lower case. -/
def ofWord (word name : String) (rest : List Char) : Except ParseError Command :=
  if name = "type" then .ok (.type (String.ofList rest))
  else if name = "schema" then .ok (.schema (String.ofList rest))
  else if name = "join" then
    match splitSources rest with
    | some (left, right) => .ok (.join (String.ofList left) (String.ofList right))
    | none => .error (.unexpectedEnd .sourceSeparator)
  else if name = "help" || name = "?" then .ok .help
  else if name = "quit" || name = "exit" then .ok .quit
  else .error (.unknownCommand word)

/-- Reads a line as a command. No letter outside ASCII has one of the letters of the command words as
its lower case, so the lower case of ASCII is enough to compare with them. -/
def read (line : String) : Logged Error Command := do
  let (word, rest) := splitWord (trimChars line.toList)
  let command ← (Logged.ofExcept
    (ofWord (String.ofList word) (String.ofList (word.map Char.toLower)) rest)).mapError .parse
  Logged.note .debug .shell ("command " ++ command.form.render)
  pure command

def readSource (source : String) : Logged Error Schema :=
  (readSchema source).mapError .parse

/-- Runs a command. Names that are reserved are quoted in its answer. -/
def run (reserved : ReservedWords) : Command → Logged Error Reply
  | type source => do
    let type ← (readType source).mapError .parse
    pure (.text (type.render reserved))
  | schema source => do
    let schema ← readSource source
    pure (.text (schema.render reserved))
  | join left right => do
    let left ← readSource left
    let right ← readSource right
    let joined ← (left.join right).mapError .join
    pure (.text (joined.render reserved))
  | help => pure (.text helpText)
  | quit => pure .quit

end Command

end SqlSchema.Shell
