import SqlSchema.Schema.Basic
import SqlSchema.Syntax.TypeReader

/-!
# Reading schemas

A schema is read as a list of columns:

```text
schema := [ name type [KEY] { ',' name type [KEY] } ]
```

`KEY` is written in any case and without quotes. The type of a column is read by a `TypeReader`.
-/

namespace SqlSchema.Syntax

open Log

/-- A place in a column list, with the columns before it. -/
inductive SchemaReader where
  /-- Nothing has been read. -/
  | start
  /-- Behind a comma after a column. -/
  | nextColumn (earlier : Schema)
  /-- Inside the type of a column. -/
  | columnType (earlier : Schema) (name : String) (place : TypeReader)
  /-- Behind the type of a column that may still become a key column. -/
  | roleOrEnd (earlier : Schema) (column : Field)
  /-- Behind a key column. -/
  | columnEnd (columns : Schema)

namespace SchemaReader

/-- The place in the column list from the place in the type of a column. -/
def ofType (earlier : Schema) (name : String) : TypeReader → SchemaReader
  | .done type => .roleOrEnd earlier ⟨name, type⟩
  | place => .columnType earlier name place

/-- The identifier that marks a key column. -/
def isKeyMark (word : String) : Bool :=
  upperIdent word = "KEY"

/-- The place behind the name of a column. -/
def beginColumn (earlier : Schema) (token : Token) (offset : Nat) :
    Logged ParseError SchemaReader :=
  match token.name? with
  | some name => pure (.columnType earlier name (.start []))
  | none => Logged.fail (.unexpectedToken .name token offset)

/-- The place behind a token, or the error that it is at this place. -/
def step (r : SchemaReader) (token : Token) (offset : Nat) : Logged ParseError SchemaReader :=
  match r with
  | start => beginColumn {} token offset
  | nextColumn earlier => beginColumn earlier token offset
  | columnType earlier name place => do
    let place ← place.step token offset
    pure (ofType earlier name place)
  | roleOrEnd earlier column =>
    match token with
    | .comma => pure (.nextColumn (earlier.add .value column))
    | .ident word =>
      if isKeyMark word then pure (.columnEnd (earlier.add .key column))
      else Logged.fail (.unexpectedToken .columnEnd token offset)
    | _ => Logged.fail (.unexpectedToken .columnEnd token offset)
  | columnEnd columns =>
    match token with
    | .comma => pure (.nextColumn columns)
    | _ => Logged.fail (.unexpectedToken .columnEnd token offset)

def run (r : SchemaReader) : List (Located Token) → Logged ParseError SchemaReader
  | [] => pure r
  | token :: tokens => do (← r.step token.item token.offset).run tokens

/-- The schema that has been read when the text ends. -/
def finish (r : SchemaReader) (stop : Nat) : Logged ParseError Schema :=
  match r with
  | start => pure {}
  | nextColumn _ => Logged.fail (.unexpectedEnd .name)
  | columnType _ _ place => Logged.fail (place.endError stop)
  | roleOrEnd earlier column => pure (earlier.add .value column)
  | columnEnd columns => pure columns

end SchemaReader

/-- Reads a schema. A text without tokens is the schema without columns. -/
def readSchema (s : String) : Logged ParseError Schema := do
  let list ← readTokens s
  let place ← SchemaReader.start.run list.tokens
  let schema ← place.finish list.stop
  Logged.note .trace .parser ("parsed schema " ++ schema.text)
  pure schema

end SqlSchema.Syntax
