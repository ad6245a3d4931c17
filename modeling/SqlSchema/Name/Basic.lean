/-!
# Names

A name is any text. One that is an identifier may be written as it is; every name can be written
between backticks, with each backtick inside it doubled.
-/

namespace SqlSchema.Name

/-- A character that may start an identifier: a letter of ASCII or an underscore. -/
def isStart (c : Char) : Bool :=
  c.isAlpha || c == '_'

/-- A character inside an identifier: a letter or digit of ASCII or an underscore. -/
def isPart (c : Char) : Bool :=
  c.isAlphanum || c == '_'

def isIdentifierChars : List Char → Bool
  | [] => false
  | c :: cs => isStart c && cs.all isPart

/-- The name is an identifier, which needs no quotes. -/
def isIdentifier (name : String) : Bool :=
  isIdentifierChars name.toList

/-- The backtick, which stands on both sides of a quoted name. -/
def mark : Char := '\x60'

/-- The characters with each backtick doubled. -/
def doubleMarks : List Char → List Char
  | [] => []
  | c :: cs => if c = mark then mark :: mark :: doubleMarks cs else c :: doubleMarks cs

def quoteChars (name : List Char) : List Char :=
  mark :: (doubleMarks name ++ [mark])

def quote (name : String) : String :=
  String.ofList (quoteChars name.toList)

theorem isPart_of_isStart {c : Char} (h : isStart c) : isPart c := by
  simp only [isStart, isPart, Char.isAlphanum, Bool.or_eq_true] at *
  exact h.imp Or.inl id

end SqlSchema.Name
