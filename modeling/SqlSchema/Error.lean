import SqlSchema.Schema.Join
import SqlSchema.Syntax.Error
import SqlSchema.Value.Check

/-!
# Errors of all kinds

An error comes from building a type, from checking a value, from joining sources or from reading a
text. Its words start with the area, and its causes can be told one by one.
-/

namespace SqlSchema

open Text Syntax

def DataError.form : DataError → Form
  | mismatch expected found =>
    .record "TypeMismatch" [("expected", .text expected.text), ("actual", .text found.text)]
  | unknownField name => .record "UnknownField" [("name", .text name)]
  | nested place cause =>
    .record "Nested" [("context", .text place.text), ("source", cause.form)]

/-- The words of a data error and of its causes, the outermost first. -/
def DataError.messages : DataError → List String
  | nested place cause => (nested place cause).message :: cause.messages
  | e => [e.message]

/-- An error of any area. -/
inductive Error where
  | type (error : TypeError)
  | data (error : DataError)
  | join (error : JoinError)
  | parse (error : ParseError)

namespace Error

/-- The name of the area that an error comes from. -/
def area : Error → String
  | type _ => "schema"
  | data _ => "data"
  | join _ => "join"
  | parse _ => "parse"

/-- The words of an error without its area, then those of its causes. -/
def messages : Error → List String
  | type e => [e.message]
  | data e => e.messages
  | join e => [e.message]
  | parse (.invalid cause offset) => [(ParseError.invalid cause offset).message, cause.message]
  | parse e => [e.message]

/-- The words of an error after the area that it comes from. -/
def message (e : Error) : String :=
  e.area ++ " error: " ++
    match e with
    | type e => e.message
    | data e => e.message
    | join e => e.message
    | parse e => e.message

/-- The fault lies in what the user wrote or supplied, not in how a type was built. -/
def isUserFault : Error → Bool
  | type _ => false
  | data _ => true
  | join e => e.isUserFault
  | parse _ => true

def form : Error → Form
  | type e => .tuple "Schema" [e.form]
  | data e => .tuple "Data" [e.form]
  | join e => .tuple "Join" [e.form]
  | parse e => .tuple "Parse" [e.form]

end Error

end SqlSchema
