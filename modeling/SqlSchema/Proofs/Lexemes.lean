import SqlSchema.Syntax.Lexer

/-!
# How tokens are spelled

`Spells token l` says that the characters `l` write the token, and `token.EndsBefore rest` that the
characters behind it do not continue it. The lexer reads a token back wherever both hold
(`tokens_of_spells`).

`Lexes l n ts` says that the characters `l` are read as the tokens `ts` if they stand at the offset
`n` of a text and a separator or the end of the text follows. Pieces of a text that a separator
keeps apart are read one by one (`Lexes.append`).
-/

namespace SqlSchema.Syntax

open Text

/-- The characters write the token. -/
inductive Spells : Token → List Char → Prop
  | ident {name : String} : Name.isIdentifier name → Spells (.ident name) name.toList
  | quoted (name : String) : Spells (.quoted name) (Name.quoteChars name.toList)
  | number {n : UInt32} {ds : List Char} : ds ≠ [] → (∀ d ∈ ds, d.isDigit) →
      Nat.ofDigitChars 10 ds 0 = n.toNat → Spells (.number n) ds
  | lt : Spells .lt ['<']
  | gt : Spells .gt ['>']
  | lparen : Spells .lparen ['(']
  | rparen : Spells .rparen [')']
  | comma : Spells .comma [',']

/-- The characters behind a token do not continue it. -/
def Token.EndsBefore : Token → List Char → Prop
  | .ident _, rest => ∀ c ∈ rest.head?, Name.isPart c = false
  | .quoted _, rest => ∀ c ∈ rest.head?, c ≠ Name.mark
  | .number _, rest => ∀ c ∈ rest.head?, c.isDigit = false
  | _, _ => True

/-! ## Classes of characters -/

theorem toNat_of_isStart {c : Char} (h : Name.isStart c) :
    (65 ≤ c.toNat ∧ c.toNat ≤ 90) ∨ (97 ≤ c.toNat ∧ c.toNat ≤ 122) ∨ c.toNat = 95 := by
  have hc : ((decide (65 ≤ c.val ∧ c.val ≤ 90) || (97 ≤ c.val && c.val ≤ 122)) ||
      c == '_') = true := h
  simp only [Bool.or_eq_true, Bool.and_eq_true, decide_eq_true_eq, beq_iff_eq,
    UInt32.le_iff_toNat_le] at hc
  rcases hc with (hc | hc) | rfl
  · exact Or.inl hc
  · exact Or.inr (Or.inl hc)
  · exact Or.inr (Or.inr rfl)

theorem toNat_of_isDigit {c : Char} (h : c.isDigit) : 48 ≤ c.toNat ∧ c.toNat ≤ 57 := by
  simp only [Char.isDigit, Bool.and_eq_true, decide_eq_true_eq, ge_iff_le,
    UInt32.le_iff_toNat_le] at h
  exact h

theorem isBlank_eq_false_of_isStart {c : Char} (h : Name.isStart c) : isBlank c = false := by
  have hc := toNat_of_isStart h
  simp only [isBlank, Bool.or_eq_false_iff, Bool.and_eq_false_iff, decide_eq_false_iff_not,
    beq_eq_false_iff_ne]
  omega

theorem isBlank_eq_false_of_isDigit {c : Char} (h : c.isDigit) : isBlank c = false := by
  have hc := toNat_of_isDigit h
  simp only [isBlank, Bool.or_eq_false_iff, Bool.and_eq_false_iff, decide_eq_false_iff_not,
    beq_eq_false_iff_ne]
  omega

theorem isDigit_eq_false_of_isStart {c : Char} (h : Name.isStart c) : c.isDigit = false := by
  have hc := toNat_of_isStart h
  refine Bool.eq_false_iff.2 fun hd => ?_
  have := toNat_of_isDigit hd
  omega

theorem isPart_of_isDigit {c : Char} (h : c.isDigit) : Name.isPart c := by
  simp [Name.isPart, Char.isAlphanum, h]

/-- The characters of identifiers and numbers are neither punctuation nor backticks. -/
theorem ofMark?_of_isPart {c : Char} (h : Name.isPart c) :
    Token.ofMark? c = none ∧ c ≠ Name.mark := by
  have ne : ∀ d, Name.isPart d = false → c ≠ d := by
    intro d hd hcd
    rw [hcd, hd] at h
    exact Bool.false_ne_true h
  refine ⟨?_, ne _ (by decide)⟩
  simp [Token.ofMark?, ne '<' (by decide), ne '>' (by decide), ne '(' (by decide),
    ne ')' (by decide), ne ',' (by decide)]

/-! ## One lexeme -/

theorem takeWhile_append_of_ends {p : Char → Bool} {l rest : List Char} (hl : ∀ c ∈ l, p c)
    (hr : ∀ c ∈ rest.head?, p c = false) :
    (l ++ rest).takeWhile p = l ∧ (l ++ rest).dropWhile p = rest := by
  rw [List.takeWhile_append_of_pos hl, List.dropWhile_append_of_pos hl]
  cases rest with
  | nil => simp
  | cons c cs => simp [hr c rfl]

/-- Reading a quoted name undoes the doubling of its backticks. -/
theorem quotedBody_doubleMarks (name : List Char) {rest : List Char}
    (hr : ∀ c ∈ rest.head?, c ≠ Name.mark) :
    quotedBody (Name.doubleMarks name ++ Name.mark :: rest) = some (name, rest) := by
  induction name with
  | nil =>
    cases rest with
    | nil => simp [Name.doubleMarks, quotedBody]
    | cons c cs => simp [Name.doubleMarks, quotedBody, hr c rfl]
  | cons c cs ih =>
    by_cases hc : c = Name.mark
    · subst hc
      simp [Name.doubleMarks, quotedBody, ih]
    · rw [Name.doubleMarks, if_neg hc, List.cons_append, quotedBody.eq_def]
      simp [hc, ih]

theorem Spells.exists_cons {token : Token} {l : List Char} (h : Spells token l) :
    ∃ c cs, l = c :: cs ∧ isBlank c = false := by
  cases h with
  | @ident name hn =>
    unfold Name.isIdentifier at hn
    cases hl : name.toList with
    | nil => simp [hl, Name.isIdentifierChars] at hn
    | cons c cs =>
      rw [hl, Name.isIdentifierChars, Bool.and_eq_true] at hn
      exact ⟨c, cs, rfl, isBlank_eq_false_of_isStart hn.1⟩
  | quoted name => exact ⟨_, _, rfl, by decide⟩
  | number hne hd =>
    cases l with
    | nil => exact absurd rfl hne
    | cons c cs => exact ⟨c, cs, rfl, isBlank_eq_false_of_isDigit (hd c (by simp))⟩
  | lt | gt | lparen | rparen | comma => exact ⟨_, _, rfl, by decide⟩

theorem numberToken?_of_eq {n : UInt32} {ds : List Char}
    (h : Nat.ofDigitChars 10 ds 0 = n.toNat) : numberToken? ds = some (.number n) := by
  have hn := n.toNat_lt
  simp [numberToken?, h, hn]

theorem lexeme_of_spells {token : Token} {l rest : List Char} (h : Spells token l)
    (he : token.EndsBefore rest) (n : Nat) {c : Char} {cs : List Char} (hc : l = c :: cs) :
    lexeme n c (cs ++ rest) = ⟨.ok token, l, rest⟩ := by
  cases h with
  | @ident name hn =>
    rw [Name.isIdentifier, hc, Name.isIdentifierChars, Bool.and_eq_true, List.all_eq_true] at hn
    obtain ⟨hmark, hquote⟩ := ofMark?_of_isPart (Name.isPart_of_isStart hn.1)
    obtain ⟨htake, hdrop⟩ := takeWhile_append_of_ends hn.2 he
    have hname : String.ofList (c :: cs) = name := by rw [← hc, String.ofList_toList]
    simp [lexeme, hmark, hquote, isDigit_eq_false_of_isStart hn.1, hn.1, htake, hdrop, hname, hc]
  | quoted name =>
    obtain ⟨rfl, rfl⟩ := List.cons.inj hc
    have hbody := quotedBody_doubleMarks name.toList he
    have hmark : Token.ofMark? Name.mark = none := by decide
    simp [lexeme, hmark, hbody, Name.quoteChars]
  | number hne hd hn =>
    subst hc
    obtain ⟨hmark, hquote⟩ := ofMark?_of_isPart (isPart_of_isDigit (hd c (by simp)))
    obtain ⟨htake, hdrop⟩ := takeWhile_append_of_ends
      (fun d hm => hd d (List.mem_cons_of_mem c hm)) he
    simp [lexeme, hmark, hquote, hd c (by simp), htake, hdrop, numberToken?_of_eq hn]
  | lt | gt | lparen | rparen | comma =>
    obtain ⟨rfl, rfl⟩ := List.cons.inj hc
    rfl

/-! ## Reading on from a place -/

theorem byteLength_toList (s : String) : byteLength s.toList = s.utf8ByteSize := by
  have h : ∀ cs : List Char, byteLength cs = (String.ofList cs).utf8ByteSize := by
    intro cs
    induction cs with
    | nil => rfl
    | cons c cs ih => rw [byteLength, ih, String.ofList_cons, String.utf8ByteSize_append,
        String.utf8ByteSize_singleton]
  rw [h, String.ofList_toList]

@[simp] theorem tokens_nil (n : Nat) : (⟨[], n⟩ : Cursor).tokens = .ok [] := by
  rw [Cursor.tokens]
  rfl

theorem next?_blank {c : Char} (hc : isBlank c) (cs : List Char) (n : Nat) :
    (⟨c :: cs, n⟩ : Cursor).next? = (⟨cs, n + c.utf8Size⟩ : Cursor).next? := by
  simp [Cursor.next?, dropBlanks, hc, byteLength, Nat.add_assoc]

theorem tokens_blank {c : Char} (hc : isBlank c) (cs : List Char) (n : Nat) :
    (⟨c :: cs, n⟩ : Cursor).tokens = (⟨cs, n + c.utf8Size⟩ : Cursor).tokens := by
  rw [Cursor.tokens, Cursor.tokens]
  split <;> rename_i h <;> rw [next?_blank hc] at h <;> split <;> simp_all

/-- The lexer reads a token from its spelling and goes on behind it. -/
theorem tokens_of_spells {token : Token} {l rest : List Char} (h : Spells token l)
    (he : token.EndsBefore rest) (n : Nat) :
    (⟨l ++ rest, n⟩ : Cursor).tokens =
      (⟨rest, n + byteLength l⟩ : Cursor).tokens.map (⟨token, n⟩ :: ·) := by
  obtain ⟨c, cs, rfl, hb⟩ := h.exists_cons
  have hnext : (⟨c :: cs ++ rest, n⟩ : Cursor).next? =
      some (.ok ⟨token, n⟩, ⟨rest, n + byteLength (c :: cs)⟩) := by
    simp [Cursor.next?, dropBlanks, hb, lexeme_of_spells h he n rfl, byteLength, Except.map]
  rw [Cursor.tokens]
  split <;> simp_all

/-! ## Pieces of a text -/

/-- A character that continues neither a name nor a number. -/
def Separates (c : Char) : Prop :=
  Name.isPart c = false ∧ c ≠ Name.mark

instance (c : Char) : Decidable (Separates c) :=
  inferInstanceAs (Decidable (_ ∧ _))

/-- Characters that start with a separator, if there are any. -/
def Apart (rest : List Char) : Prop :=
  ∀ c ∈ rest.head?, Separates c

/-- The characters are these tokens at the offset `n` of a text if something apart follows. -/
def Lexes (l : List Char) (n : Nat) (ts : List (Located Token)) : Prop :=
  ∀ rest, Apart rest → (⟨l ++ rest, n⟩ : Cursor).tokens =
    (⟨rest, n + byteLength l⟩ : Cursor).tokens.map (ts ++ ·)

theorem Apart.endsBefore {rest : List Char} (h : Apart rest) (token : Token) :
    token.EndsBefore rest := by
  cases token with
  | ident name => exact fun c hc => (h c hc).1
  | quoted name => exact fun c hc => (h c hc).2
  | number n =>
    intro c hc
    by_cases hd : c.isDigit
    · exact absurd (isPart_of_isDigit hd) (by simp [(h c hc).1])
    · simpa using hd
  | _ => trivial

theorem map_append_map {ε α : Type} (x : Except ε (List α)) (as bs : List α) :
    (x.map (bs ++ ·)).map (as ++ ·) = x.map (as ++ bs ++ ·) := by
  cases x <;> simp [Except.map]

namespace Lexes

theorem nil (n : Nat) : Lexes [] n [] := by
  intro rest _
  show (⟨rest, n⟩ : Cursor).tokens = _
  cases h : (⟨rest, n⟩ : Cursor).tokens <;> simp [byteLength, h, Except.map]

theorem cons {token : Token} {l r : List Char} {n : Nat} {ts : List (Located Token)}
    (h : Spells token l) (he : ∀ rest, Apart rest → token.EndsBefore (r ++ rest))
    (hr : Lexes r (n + byteLength l) ts) : Lexes (l ++ r) n (⟨token, n⟩ :: ts) := by
  intro rest hrest
  rw [List.append_assoc, tokens_of_spells h (he rest hrest), hr rest hrest, byteLength_append,
    Nat.add_assoc]
  exact map_append_map _ [⟨token, n⟩] ts

theorem token {token : Token} {l : List Char} (h : Spells token l) (n : Nat) :
    Lexes l n [⟨token, n⟩] := by
  have hl : Lexes (l ++ []) n [⟨token, n⟩] :=
    cons h (fun rest hrest => hrest.endsBefore token) (nil _)
  rwa [List.append_nil] at hl

theorem blank {r : List Char} {n : Nat} {ts : List (Located Token)} (hr : Lexes r (n + 1) ts) :
    Lexes (' ' :: r) n ts := by
  intro rest hrest
  rw [List.cons_append, tokens_blank (by decide)]
  rw [show n + (' ' : Char).utf8Size = n + 1 from rfl, hr rest hrest, byteLength]
  rw [show (' ' : Char).utf8Size = 1 from rfl, Nat.add_assoc]

/-- The pieces on both sides of a separator are read one by one. -/
theorem append {l r : List Char} {c : Char} {n : Nat} {ts us : List (Located Token)}
    (hl : Lexes l n ts) (hc : Separates c) (hr : Lexes (c :: r) (n + byteLength l) us) :
    Lexes (l ++ c :: r) n (ts ++ us) := by
  intro rest hrest
  have hc' : Apart (c :: r ++ rest) := by
    intro d hd
    obtain rfl := Option.some.inj hd
    exact hc
  rw [List.append_assoc, hl _ hc', hr rest hrest, byteLength_append, Nat.add_assoc]
  exact map_append_map _ ts us

theorem tokenize_eq {s : String} {ts : List (Located Token)} (h : Lexes s.toList 0 ts) :
    tokenize s = .ok ⟨ts, s.utf8ByteSize⟩ := by
  have hs : (⟨s.toList ++ [], 0⟩ : Cursor).tokens = .ok ts := by
    rw [h [] (by simp [Apart])]
    simp [Except.map]
  rw [List.append_nil] at hs
  rw [tokenize, Cursor.ofString, hs]
  simp [Except.map, Cursor.stop, byteLength_toList]

end Lexes

end SqlSchema.Syntax
