import SqlSchema.Syntax.Lexer
import SqlSchema.Type.Structure

/-!
# Syntax errors

What is wrong with the text of a type, a column list or a command line, with byte offsets into it.
Where a token or the end of the text is out of place, the error says what was expected there.
-/

namespace SqlSchema.Syntax

/-- The number of levels to which types may be nested in a text. -/
def nestingLimit : Nat := 256

/-- What can stand at some place in a text. -/
inductive Expectation where
  /-- This token. -/
  | token (token : Token)
  /-- The keyword at the start of a type. -/
  | type
  | name
  | number
  /-- A comma or the end of the fields. -/
  | fieldEnd
  /-- A comma or the end of the columns. -/
  | columnEnd
  | endOfInput
  /-- The mark between the two sources of a join. -/
  | sourceSeparator
  deriving DecidableEq

def Expectation.text : Expectation → String
  | token t => t.text
  | type => "a type"
  | name => "a name"
  | number => "a number"
  | fieldEnd => "',' or '>'"
  | columnEnd => "',' or end of input"
  | endOfInput => "end of input"
  | sourceSeparator => "';' between the join sources"

/-- Why a text cannot be read. -/
inductive ParseError where
  | lexical (error : LexError)
  /-- The text ends too early. -/
  | unexpectedEnd (expected : Expectation)
  | unexpectedToken (expected : Expectation) (found : Token) (offset : Nat)
  /-- No type has this keyword. -/
  | unknownType (name : String) (offset : Nat)
  /-- No command has this name. -/
  | unknownCommand (name : String)
  /-- A type stands inside too many others. -/
  | tooDeep (offset : Nat)
  /-- The text is well formed and describes an impossible type. -/
  | invalid (cause : TypeError) (offset : Nat)
  deriving DecidableEq

namespace ParseError

def message : ParseError → String
  | lexical e => e.message
  | unexpectedEnd expected => "unexpected end of input, expected " ++ expected.text
  | unexpectedToken expected found offset =>
    "at " ++ toString offset ++ ": expected " ++ expected.text ++ ", found " ++ found.text
  | unknownType name offset => "at " ++ toString offset ++ ": unknown type '" ++ name ++ "'"
  | unknownCommand name => "unknown command '" ++ name ++ "', try 'help'"
  | tooDeep offset =>
    "at " ++ toString offset ++ ": types nested more than " ++ toString nestingLimit ++ " levels deep"
  | invalid cause offset => "at " ++ toString offset ++ ": " ++ cause.message

open Text

def form : ParseError → Form
  | lexical (.unexpectedChar c offset) =>
    .record "UnexpectedChar" [("ch", .word (quotedChar c)), ("offset", .nat offset)]
  | lexical (.unterminatedQuote offset) => .record "UnterminatedQuote" [("offset", .nat offset)]
  | lexical (.invalidNumber digits offset) =>
    .record "InvalidNumber" [("literal", .text digits), ("offset", .nat offset)]
  | unexpectedEnd expected => .record "UnexpectedEof" [("expected", .text expected.text)]
  | unexpectedToken expected found offset =>
    .record "UnexpectedToken"
      [("expected", .text expected.text), ("found", .text found.text), ("offset", .nat offset)]
  | unknownType name offset =>
    .record "UnknownType" [("name", .text name), ("offset", .nat offset)]
  | unknownCommand name => .record "UnknownCommand" [("name", .text name)]
  | tooDeep offset => .record "TooDeep" [("limit", .nat nestingLimit), ("offset", .nat offset)]
  | invalid cause offset => .record "Invalid" [("source", cause.form), ("offset", .nat offset)]

end ParseError

end SqlSchema.Syntax
