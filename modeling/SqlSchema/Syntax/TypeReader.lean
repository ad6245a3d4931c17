import SqlSchema.Syntax.Error

/-!
# Reading types

A type is read token by token:

```text
type := BOOLEAN | INT | INTEGER | BIGINT | DOUBLE | STRING | VARCHAR
      | DECIMAL '(' n ',' n ')'
      | ARRAY '<' type '>'
      | MAP '<' type ',' type '>'
      | STRUCT '<' [ name type { ',' name type } ] '>'
```

Keywords are written in any case. A `TypeReader` is the place that has been reached: what may come
next, and the open containers around it, the innermost first. At each place exactly one thing is
expected, and a token either leads to the next place or is an error there. So every token is looked
at once, and reading ends with the last one.
-/

namespace SqlSchema.Syntax

open Log

/-- The kinds of types with other types inside. -/
inductive Container where
  | array
  | map
  | struct
  deriving DecidableEq

/-- What a type keyword starts. -/
inductive Keyword where
  /-- A type that is complete with its keyword. -/
  | simple (type : DataType)
  | decimal
  | container (container : Container)
  deriving DecidableEq

/-- The keywords of types in upper case. -/
def keywords : List (String × Keyword) := [
  ("BOOLEAN", .simple .boolean), ("INT", .simple .integer), ("INTEGER", .simple .integer),
  ("BIGINT", .simple .bigint), ("DOUBLE", .simple .double), ("STRING", .simple .string),
  ("VARCHAR", .simple .string), ("DECIMAL", .decimal), ("ARRAY", .container .array),
  ("MAP", .container .map), ("STRUCT", .container .struct)]

/-- An identifier in upper case. Its letters are those of ASCII. -/
def upperIdent (word : String) : String :=
  String.ofList (word.toList.map Char.toUpper)

/-- The keyword that an identifier is, in any case. -/
def keyword? (word : String) : Option Keyword :=
  keywords.lookup (upperIdent word)

/-- An open container around the type that is being read. -/
inductive Frame where
  /-- Behind `ARRAY<`. -/
  | item
  /-- Behind `MAP<`. -/
  | mapKey
  /-- Behind `MAP<key,`. -/
  | mapValue (key : DataType)
  /-- Behind `STRUCT<`, the fields before and a name that starts at the offset. -/
  | field (earlier : FieldList) (name : String) (offset : Nat)

/-- What may come next in a decimal type. -/
inductive DecimalPart where
  | opening
  | precision
  | comma (precision : UInt32)
  | scale (precision : UInt32)
  | closing (precision scale : UInt32)

/-- A place in a type, with the open containers around it. -/
inductive TypeReader where
  /-- A type starts. -/
  | start (outer : List Frame)
  /-- Inside a decimal type whose keyword is at the offset. -/
  | decimal (offset : Nat) (part : DecimalPart) (outer : List Frame)
  /-- Behind the keyword of a container. -/
  | opening (container : Container) (outer : List Frame)
  /-- At the start of the fields. -/
  | firstField (outer : List Frame)
  /-- Behind a comma after a field. -/
  | nextField (fields : FieldList) (outer : List Frame)
  /-- Behind a field. -/
  | fieldEnd (fields : FieldList) (outer : List Frame)
  /-- Behind the type of the elements. -/
  | itemEnd (item : DataType) (outer : List Frame)
  /-- Behind the type of the keys. -/
  | keyEnd (key : DataType) (outer : List Frame)
  /-- Behind the type of the values. -/
  | valueEnd (key value : DataType) (outer : List Frame)
  /-- Behind the outermost type. -/
  | done (type : DataType)

namespace TypeReader

/-- What can stand at a place. -/
def expected : TypeReader → Expectation
  | start _ => .type
  | decimal _ .opening _ => .token .lparen
  | decimal _ .precision _ => .number
  | decimal _ (.comma _) _ => .token .comma
  | decimal _ (.scale _) _ => .number
  | decimal _ (.closing _ _) _ => .token .rparen
  | opening _ _ => .token .lt
  | firstField _ => .name
  | nextField _ _ => .name
  | fieldEnd _ _ => .fieldEnd
  | itemEnd _ _ => .token .gt
  | keyEnd _ _ => .token .comma
  | valueEnd _ _ _ => .token .gt
  | done _ => .endOfInput

/-- The place behind a complete type, where a field joins those before it. -/
def complete (type : DataType) : List Frame → Logged ParseError TypeReader
  | [] => pure (.done type)
  | .item :: outer => pure (.itemEnd type outer)
  | .mapKey :: outer => pure (.keyEnd type outer)
  | .mapValue key :: outer => pure (.valueEnd key type outer)
  | .field earlier name offset :: outer => do
    let fields ← (earlier.add ⟨name, type⟩).mapError (.invalid · offset)
    pure (.fieldEnd fields outer)

/-- The place behind the first token of a type. -/
def begin (outer : List Frame) (offset : Nat) : Token → Logged ParseError TypeReader
  | .ident word =>
    match keyword? word with
    | some (.simple type) => complete type outer
    | some .decimal => pure (.decimal offset .opening outer)
    | some (.container c) => pure (.opening c outer)
    | none => Logged.fail (.unknownType word offset)
  | token => Logged.fail (.unexpectedToken .type token offset)

/-- The place behind the bracket that opens a container. -/
def enter (outer : List Frame) : Container → TypeReader
  | .array => .start (.item :: outer)
  | .map => .start (.mapKey :: outer)
  | .struct => .firstField outer

/-- The place behind a token, or the error that it is at this place. -/
def step (r : TypeReader) (token : Token) (offset : Nat) : Logged ParseError TypeReader :=
  match r, token with
  | start outer, token =>
    if outer.length < nestingLimit then begin outer offset token
    else Logged.fail (.tooDeep offset)
  | decimal o .opening outer, .lparen => pure (.decimal o .precision outer)
  | decimal o .precision outer, .number p => pure (.decimal o (.comma p) outer)
  | decimal o (.comma p) outer, .comma => pure (.decimal o (.scale p) outer)
  | decimal o (.scale p) outer, .number s => pure (.decimal o (.closing p s) outer)
  | decimal o (.closing p s) outer, .rparen => do
    let form ← (Logged.ofExcept (DecimalType.ofBounds p s)).mapError (.invalid · o)
    complete (.decimal form) outer
  | opening container outer, .lt => pure (enter outer container)
  | firstField outer, .gt => do complete (← FieldList.build {}) outer
  | firstField outer, .ident name => pure (.start (.field {} name offset :: outer))
  | firstField outer, .quoted name => pure (.start (.field {} name offset :: outer))
  | nextField fields outer, .ident name => pure (.start (.field fields name offset :: outer))
  | nextField fields outer, .quoted name => pure (.start (.field fields name offset :: outer))
  | fieldEnd fields outer, .comma => pure (.nextField fields outer)
  | fieldEnd fields outer, .gt => do complete (← fields.build) outer
  | itemEnd item outer, .gt => complete (.array item) outer
  | keyEnd key outer, .comma => pure (.start (.mapValue key :: outer))
  | valueEnd key value outer, .gt => complete (.map key value) outer
  | r, token => Logged.fail (.unexpectedToken r.expected token offset)

def run (r : TypeReader) : List (Located Token) → Logged ParseError TypeReader
  | [] => pure r
  | token :: tokens => do (← r.step token.item token.offset).run tokens

/-- The error if the text ends at a place that is not behind the outermost type. -/
def endError (r : TypeReader) (stop : Nat) : ParseError :=
  match r with
  | start outer => if outer.length < nestingLimit then .unexpectedEnd .type else .tooDeep stop
  | r => .unexpectedEnd r.expected

/-- The type that has been read when the text ends. -/
def finish (r : TypeReader) (stop : Nat) : Logged ParseError DataType :=
  match r with
  | done type => pure type
  | r => Logged.fail (r.endError stop)

end TypeReader

/-- The tokens of a text, as a first step of reading it. -/
def readTokens (s : String) : Logged ParseError TokenList :=
  (Logged.ofExcept (tokenize s)).mapError .lexical

def readType (s : String) : Logged ParseError DataType := do
  let list ← readTokens s
  let place ← (TypeReader.start []).run list.tokens
  let type ← place.finish list.stop
  Logged.note .trace .parser ("parsed type " ++ type.text)
  pure type

end SqlSchema.Syntax
