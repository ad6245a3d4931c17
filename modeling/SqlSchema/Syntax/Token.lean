import SqlSchema.Name.Basic

/-!
# Tokens

The smallest units of a type or a column list: names with or without quotes, numbers and five
punctuation marks. Keywords are names without quotes.
-/

namespace SqlSchema.Syntax

inductive Token where
  /-- An identifier without quotes: a name or a keyword. -/
  | ident (name : String)
  /-- A name between backticks. -/
  | quoted (name : String)
  | number (n : UInt32)
  | lt
  | gt
  | lparen
  | rparen
  | comma
  deriving DecidableEq

def Token.text : Token → String
  | ident name => "'" ++ name ++ "'"
  | quoted name => String.ofList (Name.mark :: (name.toList ++ [Name.mark]))
  | number n => toString n.toNat
  | lt => "'<'"
  | gt => "'>'"
  | lparen => "'('"
  | rparen => "')'"
  | comma => "','"

/-- The name that a token stands for where a name is allowed. -/
def Token.name? : Token → Option String
  | ident name => some name
  | quoted name => some name
  | _ => none

/-- The token that is written as one punctuation mark. -/
def Token.ofMark? (c : Char) : Option Token :=
  if c = '<' then some lt
  else if c = '>' then some gt
  else if c = '(' then some lparen
  else if c = ')' then some rparen
  else if c = ',' then some comma
  else none

/-- Something in a text, with the byte offset at which it starts. -/
structure Located (α : Type) where
  item : α
  offset : Nat
  deriving DecidableEq

end SqlSchema.Syntax
