import SqlSchema.Proofs.Pieces
import SqlSchema.Proofs.Written

/-!
# Escaped names

Every name has a written form that is read as one token and nothing else, so names with the same
written form are the same. Which names are identifiers is decided without the lexer, and yet these
are just the names that the lexer reads back as they stand (`escaped_names`).
-/

namespace SqlSchema

open Syntax

namespace ReservedWords

variable (reserved : ReservedWords)

theorem tokenize_escape (name : String) : tokenize (reserved.escape name) =
    .ok ⟨[⟨if Name.isIdentifier name ∧ Text.uppercase name ∉ reserved.words then .ident name
      else .quoted name, 0⟩], (reserved.escape name).utf8ByteSize⟩ :=
  (Lexes.token (reserved.spells_escape name) 0).tokenize_eq

/-- The token of the written form stands for the name, with quotes or without. -/
theorem escape_injective : Function.Injective reserved.escape := by
  intro v w h
  have hname : ∀ name, (if Name.isIdentifier name ∧ Text.uppercase name ∉ reserved.words then
      Token.ident name else .quoted name).name? = some name := by
    intro name
    split <;> rfl
  have hread := reserved.tokenize_escape v
  rw [h, reserved.tokenize_escape w] at hread
  have htokens := congrArg TokenList.tokens (Except.ok.inj hread)
  have htoken := congrArg Located.item (List.cons.inj htokens).1
  have hnames := congrArg Token.name? htoken
  rw [hname, hname] at hnames
  exact (Option.some.inj hnames).symm

end ReservedWords

theorem Syntax.Spells.isIdentifier {name : String} {l : List Char} (h : Spells (.ident name) l) :
    Name.isIdentifier name := by
  cases h with
  | ident hname => exact hname

theorem isIdentifier_of_tokenize {s name : String} {offset stop : Nat}
    (h : tokenize s = .ok ⟨[⟨.ident name, offset⟩], stop⟩) : Name.isIdentifier name := by
  obtain ⟨ps, -, -, -, -, htokens, -⟩ := exists_row_of_tokenize h
  cases ps with
  | nil => cases htokens
  | cons p ps =>
    have htoken : Token.ident name = p.token :=
      congrArg Located.item (List.cons.inj htokens).1
    exact (htoken ▸ p.spells).isIdentifier

/-- The written form of a name is read as one token at its start and the end of the text, whatever
words are reserved: the name as an identifier if it is one that is not reserved, and else the quoted
name. So no two names are written alike. A list of words reserves the names that are one of them but
for the case and the blanks around the word. A name is an identifier exactly if it is read as an
identifier the way it stands. -/
theorem escaped_names (reserved : ReservedWords) :
    (∀ name, tokenize (reserved.escape name) =
      .ok ⟨[⟨if Name.isIdentifier name ∧ Text.uppercase name ∉ reserved.words then .ident name
        else .quoted name, 0⟩], (reserved.escape name).utf8ByteSize⟩) ∧
    Function.Injective reserved.escape ∧
    (∀ words name, Text.uppercase name ∈ (ReservedWords.ofList words).words ↔
      Text.uppercase name ≠ "" ∧
        ∃ word ∈ words, Text.uppercase (Text.trim word) = Text.uppercase name) ∧
    ∀ name, Name.isIdentifier name ↔
      tokenize name = .ok ⟨[⟨.ident name, 0⟩], name.utf8ByteSize⟩ := by
  refine ⟨reserved.tokenize_escape, reserved.escape_injective,
    fun _ _ => ReservedWords.mem_words_ofList, fun name => ⟨?_, ?_⟩⟩
  · intro h
    exact (Lexes.token (.ident h) 0).tokenize_eq
  · intro h
    exact isIdentifier_of_tokenize h

/-- A backtick alone is written as four of them: two for the name and one on each side. -/
example : ReservedWords.none.escape "\x60" = "\x60\x60\x60\x60" := by decide

end SqlSchema
