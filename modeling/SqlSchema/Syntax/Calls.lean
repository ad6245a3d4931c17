import SqlSchema.Syntax.Lexer

/-!
# Reading call by call

A reader may be called again and again. Each call answers the next token or fault and leaves the
cursor behind it, so calls go on after a fault. When only blanks are left a call answers the end of
the text, and so does every later one.
-/

namespace SqlSchema.Syntax

/-- The byte offset at which a fault starts. -/
def LexError.offset : LexError → Nat
  | unexpectedChar _ offset => offset
  | unterminatedQuote offset => offset
  | invalidNumber _ offset => offset

/-- What a call answers. -/
inductive Answer where
  | token (token : Located Token)
  | fault (error : LexError)
  /-- The end of the text, with its length in bytes. -/
  | stop (offset : Nat)
  deriving DecidableEq

namespace Answer

def offset : Answer → Nat
  | token t => t.offset
  | fault e => e.offset
  | stop n => n

def ofReading : Except LexError (Located Token) → Answer
  | .ok t => token t
  | .error e => fault e

end Answer

namespace Cursor

/-- One call: the answer, and the cursor behind it. -/
def call (cur : Cursor) : Answer × Cursor :=
  match cur.next? with
  | some (reading, after) => (.ofReading reading, after)
  | none => (.stop cur.stop, ⟨[], cur.stop⟩)

/-- The answers of that many calls. -/
def answers : Nat → Cursor → List Answer
  | 0, _ => []
  | n + 1, cur => cur.call.1 :: answers n cur.call.2

end Cursor

end SqlSchema.Syntax
