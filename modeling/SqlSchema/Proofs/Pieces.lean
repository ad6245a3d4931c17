import Mathlib.Data.List.Chain
import Mathlib.Data.List.TakeWhile
import SqlSchema.Proofs.Lexemes
import SqlSchema.Proofs.Outcomes

/-!
# The pieces of a text

A text is a row of pieces with blanks behind the last one. A piece is some blanks, which may be
none, and a token in writing. Only where a token would run into the one behind it there have to be
blanks between the two. The lexer reads exactly such texts, and reads them as the tokens of their
pieces (`tokenize_eq_ok_iff`).
-/

namespace SqlSchema.Syntax

open Text

/-- A token in a text, with the blanks before it. -/
structure Piece where
  blanks : List Char
  token : Token
  spelling : List Char
  blank : ∀ c ∈ blanks, isBlank c
  spells : Spells token spelling

/-- The second token, right behind the first, would be read as part of it. -/
def Token.runsInto : Token → Token → Bool
  | .ident _, .ident _ => true
  | .ident _, .number _ => true
  | .number _, .number _ => true
  | .quoted _, .quoted _ => true
  | _, _ => false

namespace Piece

def chars (p : Piece) : List Char :=
  p.blanks ++ p.spelling

/-- The first piece may stand before the second: its token ends where the second piece starts. -/
def Before (p q : Piece) : Prop :=
  p.token.runsInto q.token → q.blanks ≠ []

end Piece

def rowChars (ps : List Piece) : List Char :=
  ps.flatMap Piece.chars

/-- The tokens of pieces that stand in a row from the offset `n` on. Each has the offset of its
first character. -/
def rowTokens (n : Nat) : List Piece → List (Located Token)
  | [] => []
  | p :: ps => ⟨p.token, n + byteLength p.blanks⟩ :: rowTokens (n + byteLength p.chars) ps

/-! ## Where a token ends -/

theorem separates_of_isBlank {c : Char} (h : isBlank c) : Separates c := by
  constructor
  · refine Bool.eq_false_iff.2 fun hp => ?_
    simp only [Name.isPart, Char.isAlphanum, Bool.or_eq_true, or_assoc] at hp
    have hstart : Name.isStart c = true → False := by
      intro hs
      rw [isBlank_eq_false_of_isStart hs] at h
      exact Bool.false_ne_true h
    have hdigit : c.isDigit = true → False := by
      intro hd
      rw [isBlank_eq_false_of_isDigit hd] at h
      exact Bool.false_ne_true h
    rcases hp with ha | hd | hu
    · exact hstart (by simp [Name.isStart, ha])
    · exact hdigit hd
    · exact hstart (by simp [Name.isStart, hu])
  · rintro rfl
    exact absurd h (by decide)

/-- A token ends before the spelling of another one unless it runs into it. -/
theorem Spells.endsBefore_iff {next : Token} {l : List Char} (h : Spells next l) (token : Token)
    (rest : List Char) : token.EndsBefore (l ++ rest) ↔ token.runsInto next = false := by
  cases h with
  | @ident name hn =>
    unfold Name.isIdentifier at hn
    cases hl : name.toList with
    | nil => simp [hl, Name.isIdentifierChars] at hn
    | cons c cs =>
      rw [hl, Name.isIdentifierChars, Bool.and_eq_true] at hn
      have hpart := Name.isPart_of_isStart hn.1
      have hmark := (ofMark?_of_isPart hpart).2
      have hdigit := isDigit_eq_false_of_isStart hn.1
      cases token <;> simp [Token.EndsBefore, Token.runsInto, hpart, hmark, hdigit]
  | quoted name =>
    have hmark : Name.isPart Name.mark = false ∧ Name.mark.isDigit = false := by decide
    cases token <;> simp [Token.EndsBefore, Token.runsInto, Name.quoteChars, hmark]
  | number hne hd =>
    cases l with
    | nil => exact absurd rfl hne
    | cons d ds =>
      have hdigit := hd d (by simp)
      have hpart := isPart_of_isDigit hdigit
      have hmark := (ofMark?_of_isPart hpart).2
      cases token <;> simp [Token.EndsBefore, Token.runsInto, hpart, hmark, hdigit]
  | lt | gt | lparen | rparen | comma =>
    cases token <;> simp [Token.EndsBefore, Token.runsInto] <;> decide

theorem Token.endsBefore_blanks (token : Token) {l : List Char} (h : ∀ c ∈ l, isBlank c) :
    token.EndsBefore l := by
  have hl : Apart l := fun c hc => separates_of_isBlank (h c (List.mem_of_mem_head? hc))
  exact hl.endsBefore token

theorem Piece.endsBefore_iff (p q : Piece) (rest : List Char) :
    p.token.EndsBefore (q.chars ++ rest) ↔ p.Before q := by
  unfold Piece.Before Piece.chars
  cases hb : q.blanks with
  | nil =>
    rw [List.nil_append, q.spells.endsBefore_iff]
    simp
  | cons c cs =>
    have hblank : isBlank c := q.blank c (by simp [hb])
    have hc : Apart (c :: cs ++ q.spelling ++ rest) := by
      intro d hd
      obtain rfl := Option.some.inj hd
      exact separates_of_isBlank hblank
    exact ⟨fun _ _ => List.cons_ne_nil c cs, fun _ => hc.endsBefore p.token⟩

/-- A token ends before a row of pieces, with blanks behind, if it may stand before the first. -/
theorem Piece.endsBefore_row_iff (p : Piece) (ps : List Piece) {tail : List Char}
    (ht : ∀ c ∈ tail, isBlank c) :
    p.token.EndsBefore (rowChars ps ++ tail) ↔ ∀ q ∈ ps.head?, p.Before q := by
  cases ps with
  | nil => simpa [rowChars] using p.token.endsBefore_blanks ht
  | cons q qs =>
    rw [rowChars, List.flatMap_cons, List.append_assoc, p.endsBefore_iff]
    simp

/-! ## Reading a piece -/

theorem tokens_blanks {l : List Char} (h : ∀ c ∈ l, isBlank c) (rest : List Char) (n : Nat) :
    (⟨l ++ rest, n⟩ : Cursor).tokens = (⟨rest, n + byteLength l⟩ : Cursor).tokens := by
  induction l generalizing n with
  | nil => rfl
  | cons c cs ih =>
    obtain ⟨hc, hcs⟩ := List.forall_mem_cons.1 h
    rw [List.cons_append, tokens_blank hc, ih hcs, byteLength, Nat.add_assoc]

theorem tokens_piece (p : Piece) {rest : List Char} (he : p.token.EndsBefore rest) (n : Nat) :
    (⟨p.chars ++ rest, n⟩ : Cursor).tokens =
      (⟨rest, n + byteLength p.chars⟩ : Cursor).tokens.map
        (⟨p.token, n + byteLength p.blanks⟩ :: ·) := by
  rw [Piece.chars, List.append_assoc, tokens_blanks p.blank, tokens_of_spells p.spells he,
    byteLength_append, Nat.add_assoc]

/-- The lexer reads pieces in a row one by one if each may stand before the next one. -/
theorem tokens_row {ps : List Piece} (h : ps.IsChain Piece.Before) {rest : List Char}
    (he : ∀ p ∈ ps.getLast?, p.token.EndsBefore rest) (n : Nat) :
    (⟨rowChars ps ++ rest, n⟩ : Cursor).tokens =
      (⟨rest, n + byteLength (rowChars ps)⟩ : Cursor).tokens.map (rowTokens n ps ++ ·) := by
  induction ps generalizing n with
  | nil =>
    show (⟨rest, n⟩ : Cursor).tokens = (⟨rest, n + 0⟩ : Cursor).tokens.map ([] ++ ·)
    cases (⟨rest, n⟩ : Cursor).tokens <;> rfl
  | cons p ps ih =>
    obtain ⟨hp, hps⟩ := List.isChain_cons.1 h
    have hends : p.token.EndsBefore (rowChars ps ++ rest) := by
      cases ps with
      | nil => exact he p rfl
      | cons q qs =>
        rw [rowChars, List.flatMap_cons, List.append_assoc, p.endsBefore_iff]
        exact hp q rfl
    have hlast : ∀ q ∈ ps.getLast?, q.token.EndsBefore rest := by
      cases ps with
      | nil => simp
      | cons q qs => exact he
    rw [rowChars, List.flatMap_cons, List.append_assoc]
    show (⟨p.chars ++ (rowChars ps ++ rest), n⟩ : Cursor).tokens = _
    rw [tokens_piece p hends, ih hps hlast, byteLength_append, ← Nat.add_assoc]
    exact map_append_map _ [(⟨p.token, n + byteLength p.blanks⟩ : Located Token)] _

/-! ## What the lexer has read -/

theorem spells_of_ofMark? {c : Char} {token : Token} (h : Token.ofMark? c = some token) :
    Spells token [c] ∧ ∀ rest, token.EndsBefore rest := by
  unfold Token.ofMark? at h
  repeat' split at h
  all_goals
    subst_vars
    cases h
  exacts [⟨.lt, fun _ => trivial⟩, ⟨.gt, fun _ => trivial⟩, ⟨.lparen, fun _ => trivial⟩,
    ⟨.rparen, fun _ => trivial⟩, ⟨.comma, fun _ => trivial⟩]

theorem quotedBody_rest {cs name rest : List Char} (h : quotedBody cs = some (name, rest)) :
    ∀ c ∈ rest.head?, c ≠ Name.mark := by
  fun_induction quotedBody cs generalizing name rest with
  | case1 => simp at h
  | case2 c cs hc ih =>
    obtain ⟨⟨name', rest'⟩, hb, he⟩ := Option.map_eq_some_iff.1 h
    obtain ⟨rfl, rfl⟩ := Prod.mk.inj he
    exact ih hb
  | case3 c hc =>
    obtain ⟨rfl, rfl⟩ := Prod.mk.inj (Option.some.inj h)
    simp
  | case4 c hc d ds hd =>
    obtain ⟨rfl, rfl⟩ := Prod.mk.inj (Option.some.inj h)
    simpa using hd
  | case5 c hc d ds hd ih =>
    obtain ⟨⟨name', rest'⟩, hb, he⟩ := Option.map_eq_some_iff.1 h
    obtain ⟨rfl, rfl⟩ := Prod.mk.inj he
    exact ih hb

theorem eq_false_of_mem_head?_dropWhile {p : Char → Bool} {cs : List Char} :
    ∀ c ∈ (cs.dropWhile p).head?, p c = false := by
  intro c hc
  have h := List.head?_dropWhile_not p cs
  rw [hc] at h
  exact h

theorem number_of_numberToken? {ds : List Char} {token : Token}
    (h : numberToken? ds = some token) :
    ∃ n, token = .number n ∧ Nat.ofDigitChars 10 ds 0 = n.toNat := by
  unfold numberToken? at h
  dsimp only at h
  split at h
  · next hn =>
    refine ⟨_, (Option.some.inj h).symm, ?_⟩
    exact (UInt32.toNat_ofNat_of_lt hn).symm
  · cases h

/-- A lexeme that is a token is the spelling of this token, and the token ends there. -/
theorem spells_of_lexeme {n : Nat} {c : Char} {cs : List Char} {token : Token} {l : Lexeme}
    (hl : lexeme n c cs = l) (h : l.answer = .ok token) :
    Spells token l.taken ∧ token.EndsBefore l.rest := by
  -- A punctuation mark, a quoted name, a number or an identifier, in this order.
  unfold lexeme at hl
  split at hl
  · next k hk =>
    subst hl
    obtain rfl := Except.ok.inj h
    obtain ⟨hs, he⟩ := spells_of_ofMark? hk
    exact ⟨hs, he cs⟩
  · split at hl
    · split at hl
      · next name rest hb =>
        subst hl
        obtain rfl := Except.ok.inj h
        have hs := Spells.quoted (String.ofList name)
        rw [String.toList_ofList] at hs
        exact ⟨hs, quotedBody_rest hb⟩
      · subst hl
        cases h
    · split at hl
      · next hd =>
        dsimp only at hl
        split at hl
        · next k hk =>
          subst hl
          obtain rfl := Except.ok.inj h
          obtain ⟨m, rfl, hm⟩ := number_of_numberToken? hk
          refine ⟨.number (List.cons_ne_nil _ _) ?_ hm, eq_false_of_mem_head?_dropWhile⟩
          exact List.forall_mem_cons.2 ⟨hd, List.all_eq_true.1 List.all_takeWhile⟩
        · subst hl
          cases h
      · split at hl
        · next hs =>
          subst hl
          obtain rfl := Except.ok.inj h
          have hname : Name.isIdentifier (String.ofList (c :: cs.takeWhile Name.isPart)) := by
            rw [Name.isIdentifier, String.toList_ofList, Name.isIdentifierChars, hs,
              List.all_takeWhile]
            rfl
          have hspell := Spells.ident hname
          rw [String.toList_ofList] at hspell
          exact ⟨hspell, eq_false_of_mem_head?_dropWhile⟩
        · subst hl
          cases h

/-- Where the lexer finds neither a token nor a fault, only blanks are left. -/
theorem blanks_of_next?_eq_none {cur : Cursor} (h : cur.next? = none) :
    ∀ c ∈ cur.rest, isBlank c := by
  unfold Cursor.next? at h
  split at h
  · next hb => exact List.dropWhile_eq_nil_iff.1 hb
  · cases h

/-- The lexer reads a piece at each step, and its token ends where the lexer goes on. -/
theorem exists_piece_of_next? {cur after : Cursor} {k : Located Token}
    (h : cur.next? = some (.ok k, after)) :
    ∃ p : Piece, cur.rest = p.chars ++ after.rest ∧ p.token.EndsBefore after.rest ∧
      after.offset = cur.offset + byteLength p.chars ∧
      k = ⟨p.token, cur.offset + byteLength p.blanks⟩ := by
  unfold Cursor.next? at h
  split at h
  · cases h
  · next c cs hcs =>
    obtain ⟨hk, rfl⟩ := Prod.mk.inj (Option.some.inj h)
    obtain ⟨token, ha, rfl⟩ := map_eq_ok_iff.1 hk
    obtain ⟨hs, he⟩ := spells_of_lexeme rfl ha
    have hrest := lexeme_taken_append_rest
      (cur.offset + byteLength (cur.rest.takeWhile isBlank)) c cs
    refine ⟨⟨_, token, _, List.all_eq_true.1 List.all_takeWhile, hs⟩, ?_, he, ?_, rfl⟩
    · rw [Piece.chars, List.append_assoc, hrest, ← hcs]
      exact List.takeWhile_append_dropWhile.symm
    · rw [Piece.chars, byteLength_append, Nat.add_assoc]

/-- A text that the lexer reads is a row of pieces, each of which may stand before the next one,
with blanks behind. -/
theorem exists_row_of_tokens {cur : Cursor} {ts : List (Located Token)} (h : cur.tokens = .ok ts) :
    ∃ ps tail, cur.rest = rowChars ps ++ tail ∧ (∀ c ∈ tail, isBlank c) ∧
      ps.IsChain Piece.Before ∧ ts = rowTokens cur.offset ps := by
  fun_induction Cursor.tokens cur generalizing ts with
  | case1 cur hnext =>
    obtain rfl := Except.ok.inj h
    exact ⟨[], cur.rest, rfl, blanks_of_next?_eq_none hnext, .nil, rfl⟩
  | case2 cur e after hnext => cases h
  | case3 cur k after hnext ih =>
    obtain ⟨ts', hts', rfl⟩ := map_eq_ok_iff.1 h
    obtain ⟨p, hp, he, hoff, rfl⟩ := exists_piece_of_next? hnext
    obtain ⟨ps, tail, hps, ht, hchain, rfl⟩ := ih hts'
    rw [hps] at hp he
    refine ⟨p :: ps, tail, ?_, ht, ?_, ?_⟩
    · rw [hp, rowChars, rowChars, List.flatMap_cons, List.append_assoc]
    · exact List.isChain_cons.2 ⟨(p.endsBefore_row_iff ps ht).1 he, hchain⟩
    · rw [rowTokens, hoff]

theorem exists_row_of_tokenize {s : String} {l : TokenList} (h : tokenize s = .ok l) :
    ∃ ps tail, s.toList = rowChars ps ++ tail ∧ (∀ c ∈ tail, isBlank c) ∧
      ps.IsChain Piece.Before ∧ l.tokens = rowTokens 0 ps ∧ l.stop = s.utf8ByteSize := by
  rw [tokenize, map_eq_ok_iff] at h
  obtain ⟨ts, hts, rfl⟩ := h
  obtain ⟨ps, tail, hs, ht, hps, rfl⟩ := exists_row_of_tokens hts
  refine ⟨ps, tail, hs, ht, hps, rfl, ?_⟩
  simp [Cursor.ofString, Cursor.stop, byteLength_toList]

/-- The lexer reads a text as some tokens exactly if the text is a row of pieces that write these
tokens, each of which may stand before the next one, with blanks behind. -/
theorem tokenize_eq_ok_iff {s : String} {l : TokenList} :
    tokenize s = .ok l ↔ ∃ ps tail, s.toList = rowChars ps ++ tail ∧ (∀ c ∈ tail, isBlank c) ∧
      ps.IsChain Piece.Before ∧ l.tokens = rowTokens 0 ps ∧ l.stop = s.utf8ByteSize := by
  constructor
  · exact exists_row_of_tokenize
  · rintro ⟨ps, tail, hs, ht, hps, hts, hl⟩
    have hend : (⟨tail, byteLength (rowChars ps)⟩ : Cursor).tokens = .ok [] := by
      have h := tokens_blanks ht [] (byteLength (rowChars ps))
      rw [List.append_nil] at h
      rw [h, tokens_nil]
    have hrow := tokens_row hps (fun p _ => p.token.endsBefore_blanks ht) 0
    rw [Nat.zero_add, hend, ← hs] at hrow
    have hall : (Cursor.ofString s).tokens = .ok (rowTokens 0 ps) := by
      rw [Cursor.ofString]
      simpa [Except.map] using hrow
    have hstop : (Cursor.ofString s).stop = l.stop := by
      simp [Cursor.ofString, Cursor.stop, byteLength_toList, hl]
    rw [tokenize, hall, hstop, ← hts]
    rfl

/-- A number ends where a name starts, and a doubled backtick goes on with the name. -/
example : tokenize "1x`a``b`" =
    .ok ⟨[⟨.number 1, 0⟩, ⟨.ident "x", 1⟩, ⟨.quoted "a`b", 2⟩], 8⟩ := by cbv

/-! ## Texts of few tokens -/

/-- The tokens from here on, if there is no fault and there are fewer of them than the bound. -/
def Cursor.tokensBelow : Nat → Cursor → Option (List (Located Token))
  | 0, _ => none
  | n + 1, cur =>
    match cur.next? with
    | none => some []
    | some (.error _, _) => none
    | some (.ok token, after) => (after.tokensBelow n).map (token :: ·)

theorem tokens_eq_of_tokensBelow {n : Nat} {cur : Cursor} {ts : List (Located Token)}
    (h : cur.tokensBelow n = some ts) : cur.tokens = .ok ts := by
  induction n generalizing cur ts with
  | zero => cases h
  | succ n ih =>
    rw [Cursor.tokensBelow] at h
    rw [Cursor.tokens]
    split at h
    · obtain rfl := Option.some.inj h
      split <;> simp_all
    · cases h
    · obtain ⟨us, hus, rfl⟩ := Option.map_eq_some_iff.1 h
      split <;> simp_all [Except.map]

/-- The tokens of a text with fewer of them than the bound, which can be computed. -/
theorem tokenize_eq_of_tokensBelow (n : Nat) {s : String} {ts : List (Located Token)}
    (h : (Cursor.ofString s).tokensBelow n = some ts) : tokenize s = .ok ⟨ts, s.utf8ByteSize⟩ := by
  rw [tokenize, tokens_eq_of_tokensBelow h]
  simp [Except.map, Cursor.stop, Cursor.ofString, byteLength_toList]

/-! ## The places of tokens -/

theorem Spells.byteLength_pos {token : Token} {l : List Char} (h : Spells token l) :
    0 < byteLength l := by
  obtain ⟨c, cs, rfl, -⟩ := h.exists_cons
  have := c.utf8Size_pos
  rw [byteLength]
  omega

theorem offset_of_mem_rowTokens {n : Nat} {ps : List Piece} {k : Located Token}
    (h : k ∈ rowTokens n ps) : n ≤ k.offset ∧ k.offset < n + byteLength (rowChars ps) := by
  induction ps generalizing n with
  | nil => cases h
  | cons p ps ih =>
    have hspelling := p.spells.byteLength_pos
    have hchars : byteLength p.chars = byteLength p.blanks + byteLength p.spelling :=
      byteLength_append _ _
    rw [rowChars, List.flatMap_cons, byteLength_append]
    show _ ∧ _ < n + (byteLength p.chars + byteLength (rowChars ps))
    rcases List.mem_cons.1 h with rfl | h
    · dsimp only
      omega
    · have := ih h
      omega

theorem pairwise_rowTokens (n : Nat) (ps : List Piece) :
    (rowTokens n ps).Pairwise fun j k => j.offset < k.offset := by
  induction ps generalizing n with
  | nil => exact List.Pairwise.nil
  | cons p ps ih =>
    refine List.pairwise_cons.2 ⟨?_, ih _⟩
    intro k hk
    have hspelling := p.spells.byteLength_pos
    have hchars : byteLength p.chars = byteLength p.blanks + byteLength p.spelling :=
      byteLength_append _ _
    have := (offset_of_mem_rowTokens hk).1
    show n + byteLength p.blanks < k.offset
    omega

/-- The tokens of a text are listed in the order of their places, all before its end. -/
theorem pairwise_of_tokenize {s : String} {l : TokenList} (h : tokenize s = .ok l) :
    (l.tokens.Pairwise fun j k => j.offset < k.offset) ∧ ∀ k ∈ l.tokens, k.offset < l.stop := by
  obtain ⟨ps, tail, hs, -, -, hts, hstop⟩ := exists_row_of_tokenize h
  rw [hts, hstop, ← byteLength_toList, hs, byteLength_append]
  refine ⟨pairwise_rowTokens 0 ps, ?_⟩
  intro k hk
  have := (offset_of_mem_rowTokens hk).2
  omega

end SqlSchema.Syntax
