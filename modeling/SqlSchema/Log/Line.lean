import SqlSchema.Log.Level
import SqlSchema.Number.Positional

/-!
# Log lines

A line of the log carries its level, the part of the program that wrote it and the depth of the
scopes around it. Only its last step, `Line.render`, makes a text of it. The end of a scope tells the
time that it took, in the largest of four units that is not more than it, with two places after the
point.
-/

namespace SqlSchema.Log

/-- The part of the program that writes a line. -/
inductive Component where
  | types
  | struct
  | schema
  | join
  | parser
  | shell
  deriving DecidableEq

def Component.label : Component → String
  | types => "types"
  | struct => "struct"
  | schema => "schema"
  | join => "join"
  | parser => "parser"
  | shell => "shell"

inductive Message where
  | text (words : String)
  /-- A scope begins. -/
  | opened (scope : String)
  /-- A scope ends. -/
  | closed (scope : String)
  deriving DecidableEq

def Message.render (elapsed : String) : Message → String
  | text words => words
  | opened scope => "begin " ++ scope
  | closed scope => "end " ++ scope ++ " (" ++ elapsed ++ ")"

structure Line where
  depth : Nat
  level : Level
  component : Component
  message : Message
  deriving DecidableEq

/-- Two spaces for each scope around. -/
def indentation (depth : Nat) : String :=
  String.ofList (List.replicate (2 * depth) ' ')

/-- A time in some unit of that many nanoseconds, rounded to hundredths. -/
def inUnit (nanoseconds unit : Nat) (name : String) : String :=
  String.ofList (Number.positional ((nanoseconds * 100 + unit / 2) / unit) 2) ++ name

/-- The text of a time in nanoseconds, such as `12.34µs`. -/
def elapsedText (nanoseconds : Nat) : String :=
  if nanoseconds < 1000 then inUnit nanoseconds 1 "ns"
  else if nanoseconds < 1000000 then inUnit nanoseconds 1000 "µs"
  else if nanoseconds < 1000000000 then inUnit nanoseconds 1000000 "ms"
  else inUnit nanoseconds 1000000000 "s"

/-- The line as it is written: indentation, level, component and message. -/
def Line.render (elapsed : String) (line : Line) : String :=
  indentation line.depth ++ line.level.tag ++ " [" ++ line.component.label ++ "] " ++
    line.message.render elapsed

end SqlSchema.Log
