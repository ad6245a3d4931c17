import SqlSchema.Syntax.Token
import SqlSchema.Text.Blank

/-!
# Reading tokens

A cursor stands in a text. Each step skips blanks and takes the longest lexeme from there, which is
a token or a fault; the cursor moves behind it in either case, so reading can go on after a fault.
The characters taken and those left always make up the characters that were there.
-/

namespace SqlSchema.Syntax

open Text

/-- A place where no token can be read. -/
inductive LexError where
  /-- No token starts with this character. -/
  | unexpectedChar (c : Char) (offset : Nat)
  /-- A quoted name without an end; the offset is that of its start. -/
  | unterminatedQuote (offset : Nat)
  /-- A number of more than 32 bits. -/
  | invalidNumber (digits : String) (offset : Nat)
  deriving DecidableEq

def LexError.message : LexError → String
  | unexpectedChar c offset =>
    "at " ++ toString offset ++ ": unexpected character '" ++ String.singleton c ++ "'"
  | unterminatedQuote offset => "at " ++ toString offset ++ ": unterminated quoted identifier"
  | invalidNumber digits offset =>
    "at " ++ toString offset ++ ": invalid number '" ++ digits ++ "'"

/-- The name up to the backtick that ends it, and what follows. A doubled backtick is part of the
name. -/
def quotedBody : List Char → Option (List Char × List Char)
  | [] => none
  | c :: cs =>
    if c ≠ Name.mark then (quotedBody cs).map fun (name, rest) => (c :: name, rest)
    else match cs with
      | [] => some ([], [])
      | d :: ds =>
        if d ≠ Name.mark then some ([], d :: ds)
        else (quotedBody ds).map fun (name, rest) => (Name.mark :: name, rest)

/-- What was read at a place: the answer, the characters taken and those left. -/
structure Lexeme where
  answer : Except LexError Token
  taken : List Char
  rest : List Char

/-- The number that digits write, if it has at most 32 bits. -/
def numberToken? (ds : List Char) : Option Token :=
  let n := Nat.ofDigitChars 10 ds 0
  if n < UInt32.size then some (.number (UInt32.ofNat n)) else none

/-- The lexeme that starts with `c` at the given offset. -/
def lexeme (offset : Nat) (c : Char) (cs : List Char) : Lexeme :=
  if let some token := Token.ofMark? c then
    ⟨.ok token, [c], cs⟩
  else if c = Name.mark then
    match quotedBody cs with
    | some (name, rest) => ⟨.ok (.quoted (String.ofList name)), Name.quoteChars name, rest⟩
    | none => ⟨.error (.unterminatedQuote offset), c :: cs, []⟩
  else if c.isDigit then
    let ds := c :: cs.takeWhile Char.isDigit
    let rest := cs.dropWhile Char.isDigit
    match numberToken? ds with
    | some token => ⟨.ok token, ds, rest⟩
    | none => ⟨.error (.invalidNumber (String.ofList ds) offset), ds, rest⟩
  else if Name.isStart c then
    let name := c :: cs.takeWhile Name.isPart
    ⟨.ok (.ident (String.ofList name)), name, cs.dropWhile Name.isPart⟩
  else
    ⟨.error (.unexpectedChar c offset), [c], cs⟩

theorem quotedBody_eq_append {cs name rest : List Char} (h : quotedBody cs = some (name, rest)) :
    Name.doubleMarks name ++ Name.mark :: rest = cs := by
  fun_induction quotedBody cs generalizing name rest with
  | case1 => simp at h
  | case2 c cs hc ih =>
    obtain ⟨⟨name', rest'⟩, hb, he⟩ := Option.map_eq_some_iff.1 h
    obtain ⟨rfl, rfl⟩ := Prod.mk.inj he
    simp [Name.doubleMarks, hc, ih hb]
  | case3 c hc =>
    obtain ⟨rfl, rfl⟩ := Prod.mk.inj (Option.some.inj h)
    simp_all [Name.doubleMarks]
  | case4 c hc d ds hd =>
    obtain ⟨rfl, rfl⟩ := Prod.mk.inj (Option.some.inj h)
    simp_all [Name.doubleMarks]
  | case5 c hc d ds hd ih =>
    obtain ⟨⟨name', rest'⟩, hb, he⟩ := Option.map_eq_some_iff.1 h
    obtain ⟨rfl, rfl⟩ := Prod.mk.inj he
    simp_all [Name.doubleMarks]

theorem lexeme_taken_append_rest (offset : Nat) (c : Char) (cs : List Char) :
    (lexeme offset c cs).taken ++ (lexeme offset c cs).rest = c :: cs := by
  unfold lexeme
  split
  · rfl
  · split
    · next hc =>
      split
      · next name rest hb =>
        simp [Name.quoteChars, hc, ← quotedBody_eq_append hb]
      · simp
    · split
      · dsimp only
        split <;> simp [List.takeWhile_append_dropWhile]
      · split <;> simp [List.takeWhile_append_dropWhile]

theorem taken_ne_nil (offset : Nat) (c : Char) (cs : List Char) :
    (lexeme offset c cs).taken ≠ [] := by
  unfold lexeme
  split
  · simp
  · split
    · split <;> simp [Name.quoteChars]
    · split
      · dsimp only
        split <;> simp
      · split <;> simp

/-- A place in a text: the characters from there on, and the byte offset. -/
structure Cursor where
  rest : List Char
  offset : Nat := 0

namespace Cursor

def ofString (s : String) : Cursor :=
  ⟨s.toList, 0⟩

/-- The byte offset of the end of the text. -/
def stop (cur : Cursor) : Nat :=
  cur.offset + byteLength cur.rest

/-- The next token or fault and the cursor behind it, or nothing if only blanks are left. -/
def next? (cur : Cursor) : Option (Except LexError (Located Token) × Cursor) :=
  match dropBlanks cur.rest with
  | [] => none
  | c :: cs =>
    let start := cur.offset + byteLength (cur.rest.takeWhile isBlank)
    let l := lexeme start c cs
    some (l.answer.map (⟨·, start⟩), ⟨l.rest, start + byteLength l.taken⟩)

theorem length_rest_lt {cur after : Cursor} {answer : Except LexError (Located Token)}
    (h : cur.next? = some (answer, after)) : after.rest.length < cur.rest.length := by
  unfold next? at h
  split at h
  · simp at h
  · next c cs hcs =>
    obtain ⟨_, rfl⟩ := Prod.mk.inj (Option.some.inj h)
    have split := congrArg List.length
      (lexeme_taken_append_rest (cur.offset + byteLength (cur.rest.takeWhile isBlank)) c cs)
    have taken := List.length_pos_iff.2
      (taken_ne_nil (cur.offset + byteLength (cur.rest.takeWhile isBlank)) c cs)
    have blanks := congrArg List.length (List.takeWhile_append_dropWhile (p := isBlank)
      (l := cur.rest))
    simp only [dropBlanks] at hcs
    simp only [List.length_append, hcs] at split blanks
    dsimp only
    omega

/-- All tokens from here on, or the first fault. -/
def tokens (cur : Cursor) : Except LexError (List (Located Token)) :=
  match _h : cur.next? with
  | none => .ok []
  | some (.error e, _) => .error e
  | some (.ok token, after) => after.tokens.map (token :: ·)
termination_by cur.rest.length
decreasing_by exact length_rest_lt _h

end Cursor

/-- The tokens of a text and the byte offset of its end. -/
structure TokenList where
  tokens : List (Located Token)
  stop : Nat
  deriving DecidableEq

/-- The tokens of a text. -/
def tokenize (s : String) : Except LexError TokenList :=
  (Cursor.ofString s).tokens.map fun tokens => ⟨tokens, (Cursor.ofString s).stop⟩

end SqlSchema.Syntax
