import SqlSchema.Syntax.SchemaReader
import SqlSchema.Type.Index

/-!
# Recursive descent

Types and schemas can also be read by recursive descent. A `Parser` keeps the tokens with the end of
the text behind them, the position of the next one and the depth of the types around it. `type` calls
itself for the parts of a type, and a loop reads the fields of a STRUCT or the columns of a schema,
one in each turn. The logger is at hand all the time.

Nothing keeps the position within the tokens: where it leaves them, a descent has no result at all,
not even an error. A number bounds the calls of `type` inside one another and the turns of each loop.
It is no limit of what can be read, and a descent that would need more has no result either.

A parser also keeps what its work can be judged by and does not depend on: the calls of `type` in
progress and the moments that it has gone through. A call is in progress from its first step, which
looks if it is too deep, until it returns.
-/

namespace SqlSchema.Syntax

open Log

namespace Token

def only? (expected found : Token) : Option Unit :=
  if found = expected then some () else none

def word? : Token → Option String
  | ident word => some word
  | _ => none

def number? : Token → Option UInt32
  | number n => some n
  | _ => none

/-- Whether another field follows, by the token behind a field. -/
def moreFields? : Token → Option Bool
  | comma => some true
  | gt => some false
  | _ => none

end Token

/-- The end of a text or a token of it. -/
abbrev Mark := Located (Option Token)

/-- The tokens of a text with the end of the text behind them. -/
def TokenList.marks (l : TokenList) : List Mark :=
  l.tokens.map (fun k => ⟨some k.item, k.offset⟩) ++ [⟨none, l.stop⟩]

/-- Where a call of `type` stands. -/
inductive Stage where
  /-- The depth is not raised for it, since it has only begun or is about to return. -/
  | outside
  | inside
  deriving DecidableEq

/-- Where a parser stands: its position and depth, and the calls of `type` in progress, the innermost
first. -/
structure Moment where
  pos : Nat
  depth : Nat
  calls : List Stage

/-- A parser at work. -/
structure Parser where
  marks : List Mark
  journal : Journal
  pos : Nat := 0
  depth : Nat := 0
  /-- The calls of `type` in progress, the innermost first. -/
  calls : List Stage := []
  /-- The earlier moments, the last of them first. -/
  past : List Moment := []

namespace Parser

def moment (p : Parser) : Moment :=
  ⟨p.pos, p.depth, p.calls⟩

/-- All moments up to now. -/
def reached (p : Parser) : List Moment :=
  p.moment :: p.past

def start (l : TokenList) (j : Journal) : Parser :=
  { marks := l.marks, journal := j }

/-- The parser goes on to another moment. -/
def goTo (p : Parser) (m : Moment) : Parser :=
  { p with pos := m.pos, depth := m.depth, calls := m.calls, past := p.moment :: p.past }

/-- The parser with its position behind one mark more. -/
def next (p : Parser) : Parser :=
  p.goTo { p.moment with pos := p.pos + 1 }

/-- A call of `type` begins. -/
def begin (p : Parser) : Parser :=
  p.goTo { p.moment with calls := .outside :: p.calls }

/-- The innermost call raises the depth. -/
def enter (p : Parser) : Parser :=
  p.goTo { p.moment with depth := p.depth + 1, calls := .inside :: p.calls.tail }

/-- The innermost call takes the depth back. -/
def leave (p : Parser) : Parser :=
  p.goTo { p.moment with depth := p.depth - 1, calls := .outside :: p.calls.tail }

/-- The innermost call returns. -/
def resume (p : Parser) : Parser :=
  p.goTo { p.moment with calls := p.calls.tail }

end Parser

/-- Work on a parser, which may come to nothing. -/
abbrev Work := StateT Parser Option

/-- Work that may also fail with a syntax error. -/
abbrev Descent := ExceptT ParseError Work

/-- What a turn of a loop comes to: another turn, or the end of the loop. -/
inductive Turn (σ α : Type) where
  | next (state : σ)
  | done (result : α)

/-- The error if something else is expected. -/
def Mark.unexpected (found : Mark) (expected : Expectation) : ParseError :=
  match found.item with
  | some token => .unexpectedToken expected token found.offset
  | none => .unexpectedEnd expected

namespace Descent

variable {α : Type}

/-- The mark at the position. -/
def current : Descent Mark := do
  let p ← get
  liftM p.marks[p.pos]?

/-- The mark at the position, which goes on unless this is the end. -/
def advance : Descent Mark := do
  let found ← current
  if found.item.isSome then modify Parser.next
  pure found

/-- Work that uses the logger. -/
def act (x : Acting ParseError α) : Descent α :=
  ExceptT.mk fun p => (x.run.run p.journal).map fun r => (r.1, { p with journal := r.2 })

/-- What the next token stands for and where it starts, or the error that something else was
expected. -/
def accept (expected : Expectation) (read : Token → Option α) : Descent (Located α) := do
  let found ← advance
  match found.item.bind read with
  | some a => pure ⟨a, found.offset⟩
  | none => throw (found.unexpected expected)

def expect (token : Token) : Descent Unit := do
  let _ ← accept (.token token) token.only?

def name : Descent (Located String) :=
  accept .name Token.name?

def number : Descent UInt32 := do
  let found ← accept .number Token.number?
  pure found.item

def endOfInput : Descent Unit := do
  let found ← advance
  match found.item with
  | none => pure ()
  | some _ => throw (found.unexpected .endOfInput)

def tooDeep : Descent DataType := do
  let found ← current
  throw (.tooDeep found.offset)

/-- The bounds behind the keyword of a decimal type at the offset. -/
def decimal (offset : Nat) : Descent DataType := do
  expect .lparen
  let precision ← number
  expect .comma
  let scale ← number
  expect .rparen
  let form ← act
    ((Acting.ofExcept (DecimalType.ofBounds precision scale)).mapError (.invalid · offset))
  pure (.decimal form)

/-- A loop from a state, of at most so many turns. -/
def loop {σ : Type} (turn : σ → Descent (Turn σ α)) : Nat → σ → Descent α
  | 0, _ => liftM (none : Option α)
  | n + 1, state => do
    match ← turn state with
    | .next state' => loop turn n state'
    | .done result => pure result

/-- What is done inside a call of `type`, behind the guard against too much depth. The depth is taken
back also if this fails. -/
def guarded (inside : Descent DataType) : Descent DataType := (do
  let p ← get
  if p.depth = nestingLimit then
    tooDeep.run
  else
    modify Parser.enter
    let result ← inside.run
    modify Parser.leave
    pure result : Work (Except ParseError DataType))

def call (inside : Descent DataType) : Descent DataType := (do
  modify Parser.begin
  let result ← (guarded inside).run
  modify Parser.resume
  pure result : Work (Except ParseError DataType))

section Inside

variable (type : Descent DataType)

/-- What follows the keyword of an array. -/
def array : Descent DataType := do
  expect .lt
  let item ← type
  expect .gt
  pure (.array item)

/-- What follows the keyword of a map. -/
def map : Descent DataType := do
  expect .lt
  let key ← type
  expect .comma
  let value ← type
  expect .gt
  pure (.map key value)

/-- A field behind others, and what ends it. -/
def fieldTurn (earlier : IndexedFields) : Descent (Turn IndexedFields DataType) := do
  let name ← name
  let type ← type
  let fields ← act ((Acting.addField earlier ⟨name.item, type⟩).mapError (.invalid · name.offset))
  let more ← accept .fieldEnd Token.moreFields?
  if more.item then
    pure (.next fields)
  else
    let built ← act (Acting.buildFields fields)
    pure (.done built.type)

/-- What follows the keyword of a STRUCT. -/
def struct (n : Nat) : Descent DataType := do
  expect .lt
  let found ← current
  if found.item = some .gt then
    let _ ← advance
    let built ← act (Acting.buildFields .empty)
    pure built.type
  else
    loop (fieldTurn type) n .empty

/-- A type at whose depth the parser is. -/
def typeInside (n : Nat) : Descent DataType := do
  let word ← accept .type Token.word?
  match keyword? word.item with
  | some (.simple t) => pure t
  | some .decimal => decimal word.offset
  | some (.container .array) => array type
  | some (.container .map) => map type
  | some (.container .struct) => struct type n
  | none => throw (.unknownType word.item word.offset)

end Inside

/-- A type. -/
def type : Nat → Descent DataType
  | 0 => liftM (none : Option DataType)
  | n + 1 => call (typeInside (type n) n)

/-- The mark of a key column, if it is there. -/
def role : Descent Role := do
  let found ← current
  match found.item with
  | some (.ident word) =>
    if SchemaReader.isKeyMark word then
      let _ ← advance
      pure .key
    else
      pure .value
  | _ => pure .value

/-- A column behind others, and what ends it. -/
def columnTurn (type : Descent DataType) (earlier : Schema) : Descent (Turn Schema Schema) := do
  let name ← name
  let type ← type
  let role ← role
  let columns := earlier.add role ⟨name.item, type⟩
  let found ← advance
  match found.item with
  | some .comma => pure (.next columns)
  | none => pure (.done columns)
  | some _ => throw (found.unexpected .columnEnd)

def schema (n : Nat) : Descent Schema := do
  let found ← current
  if found.item = none then
    pure {}
  else
    loop (columnTurn (type n)) n {}

/-- A whole text that is a type. -/
def wholeType (n : Nat) : Descent DataType := do
  let type ← type n
  endOfInput
  act (Acting.note .trace .parser ("parsed type " ++ type.text))
  pure type

/-- A whole text that is a schema. -/
def wholeSchema (n : Nat) : Descent Schema := do
  let schema ← schema n
  act (Acting.note .trace .parser ("parsed schema " ++ schema.text))
  pure schema

def ofText (x : Nat → Descent α) (s : String) : Acting ParseError α :=
  match tokenize s with
  | .error e => throw (.lexical e)
  | .ok l => ExceptT.mk fun j =>
    ((x l.marks.length).run.run (.start l j)).map fun r => (r.1, r.2.journal)

end Descent

end SqlSchema.Syntax
