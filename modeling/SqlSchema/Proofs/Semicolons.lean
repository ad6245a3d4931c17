import SqlSchema.Proofs.CommandReading
import SqlSchema.Proofs.Pieces

/-!
# Semicolons in a text

No token has a semicolon in its spelling except a quoted name. So if a text of types or columns is
cut at its first semicolon, what stands before it breaks off inside of a quoted name
(`exists_unterminated`).
-/

namespace SqlSchema.Name

theorem mem_doubleMarks {c : Char} {cs : List Char} : c ∈ doubleMarks cs ↔ c ∈ cs := by
  induction cs with
  | nil => rfl
  | cons d ds ih =>
    rw [doubleMarks]
    split
    · next hd => simp [ih, hd]
    · simp [ih]

theorem doubleMarks_append (cs ds : List Char) :
    doubleMarks (cs ++ ds) = doubleMarks cs ++ doubleMarks ds := by
  induction cs with
  | nil => rfl
  | cons c cs ih =>
    rw [List.cons_append, doubleMarks, doubleMarks, ih]
    split <;> rfl

theorem mem_quoteChars {c : Char} (hc : c ≠ mark) {cs : List Char} :
    c ∈ quoteChars cs ↔ c ∈ cs := by
  simp [quoteChars, hc, mem_doubleMarks]

end SqlSchema.Name

namespace SqlSchema.Syntax

open Text

/-! ## Quoted names that break off -/

theorem quotedBody_doubleMarks_eq_none (cs : List Char) :
    quotedBody (Name.doubleMarks cs) = none := by
  induction cs with
  | nil => rfl
  | cons c cs ih =>
    by_cases hc : c = Name.mark
    · subst hc
      simp [Name.doubleMarks, quotedBody, ih]
    · rw [Name.doubleMarks, if_neg hc, quotedBody.eq_def]
      simp [hc, ih]

/-- A quoted name without its end is a fault where it starts. -/
theorem tokens_unterminated (cs : List Char) (n : Nat) :
    (⟨Name.mark :: Name.doubleMarks cs, n⟩ : Cursor).tokens = .error (.unterminatedQuote n) := by
  have hmark : Token.ofMark? Name.mark = none := by decide
  have hblank : isBlank Name.mark = false := by decide
  have hnext : ∃ after, (⟨Name.mark :: Name.doubleMarks cs, n⟩ : Cursor).next? =
      some (.error (.unterminatedQuote n), after) := by
    simp [Cursor.next?, dropBlanks, hblank, lexeme, hmark, quotedBody_doubleMarks_eq_none,
      byteLength, Except.map]
  obtain ⟨after, hnext⟩ := hnext
  rw [Cursor.tokens]
  split <;> simp_all

/-- Blanks at its end keep a name that breaks off what it is. -/
theorem rdropWhile_doubleMarks (cs : List Char) :
    (Name.doubleMarks cs).rdropWhile isBlank = Name.doubleMarks (cs.rdropWhile isBlank) := by
  induction cs using List.reverseRecOn with
  | nil => rfl
  | append_singleton cs c ih =>
    by_cases hc : isBlank c
    · have hmark : c ≠ Name.mark := by
        rintro rfl
        exact absurd hc (by decide)
      have hone : Name.doubleMarks [c] = [c] := by simp [Name.doubleMarks, hmark]
      rw [Name.doubleMarks_append, hone, List.rdropWhile_concat_pos _ _ _ hc,
        List.rdropWhile_concat_pos _ _ _ hc, ih]
    · rw [List.rdropWhile_concat_neg _ _ _ hc, List.rdropWhile_eq_self_iff]
      intro hne
      rw [Bool.not_eq_true] at hc
      by_cases hmark : c = Name.mark
      · subst hmark
        simp [Name.doubleMarks_append, Name.doubleMarks, hc]
      · simp [Name.doubleMarks_append, Name.doubleMarks, hmark, hc]

/-! ## Pieces with semicolons -/

/-- Only a quoted name has a semicolon in its spelling. -/
theorem Spells.exists_quoted_of_mem {token : Token} {l : List Char} (h : Spells token l)
    (hm : ';' ∈ l) : ∃ name : String, token = .quoted name ∧
      l = Name.quoteChars name.toList ∧ ';' ∈ name.toList := by
  cases h with
  | @ident name hn =>
    have hpart : ∀ c ∈ name.toList, Name.isPart c := by
      unfold Name.isIdentifier at hn
      cases hl : name.toList with
      | nil => simp
      | cons c cs =>
        rw [hl, Name.isIdentifierChars, Bool.and_eq_true, List.all_eq_true] at hn
        exact List.forall_mem_cons.2 ⟨Name.isPart_of_isStart hn.1, hn.2⟩
    exact absurd (hpart _ hm) (by decide)
  | quoted name => exact ⟨name, rfl, rfl, (Name.mem_quoteChars (by decide)).1 hm⟩
  | number hne hd => exact absurd (hd _ hm) (by decide)
  | lt | gt | lparen | rparen | comma => exact absurd hm (by decide)

theorem Piece.exists_quoted_of_mem {p : Piece} (hm : ';' ∈ p.chars) :
    ∃ name : String, p.token = .quoted name ∧
      p.chars = p.blanks ++ Name.quoteChars name.toList ∧ ';' ∈ name.toList := by
  rcases List.mem_append.1 hm with hb | hs
  · exact absurd (p.blank _ hb) (by decide)
  · obtain ⟨name, htoken, hname, hmem⟩ := p.spells.exists_quoted_of_mem hs
    exact ⟨name, htoken, by rw [Piece.chars, hname], hmem⟩

theorem exists_first_piece {ps : List Piece} (h : ';' ∈ rowChars ps) :
    ∃ before p after, ps = before ++ p :: after ∧ ';' ∉ rowChars before ∧ ';' ∈ p.chars := by
  induction ps with
  | nil => cases h
  | cons p ps ih =>
    by_cases hp : ';' ∈ p.chars
    · exact ⟨[], p, ps, rfl, by simp [rowChars], hp⟩
    · rw [rowChars, List.flatMap_cons, List.mem_append] at h
      obtain ⟨before, q, after, rfl, hbefore, hq⟩ := ih (h.resolve_left hp)
      refine ⟨p :: before, q, after, rfl, ?_, hq⟩
      rw [rowChars, List.flatMap_cons, List.mem_append]
      exact fun h => h.elim hp hbefore

theorem Token.endsBefore_congr {token : Token} {l r : List Char} (h : l.head? = r.head?) :
    token.EndsBefore l ↔ token.EndsBefore r := by
  cases token <;> simp [Token.EndsBefore, h]

theorem tokens_row_unterminated {ps qs : List Piece} {p : Piece} {name : List Char}
    (h : (ps ++ p :: qs).IsChain Piece.Before) (hp : p.chars = p.blanks ++ Name.quoteChars name)
    (cs : List Char) :
    (⟨rowChars ps ++ (p.blanks ++ Name.mark :: Name.doubleMarks cs), 0⟩ : Cursor).tokens =
      .error (.unterminatedQuote (byteLength (rowChars ps ++ p.blanks))) := by
  have hps : ps.IsChain Piece.Before := h.left_of_append
  have hends : ∀ q ∈ ps.getLast?,
      q.token.EndsBefore (p.blanks ++ Name.mark :: Name.doubleMarks cs) := by
    intro q hq
    have hbefore : q.Before p := (List.isChain_append.1 h).2.2 q hq p rfl
    refine (Token.endsBefore_congr ?_).1 ((q.endsBefore_iff p []).2 hbefore)
    rw [List.append_nil, hp]
    cases p.blanks <;> rfl
  rw [tokens_row hps hends, tokens_blanks p.blank, tokens_unterminated, Nat.zero_add,
    byteLength_append]
  rfl

/-- The token of a piece in a row stands behind the pieces before it and its own blanks. -/
theorem mem_rowTokens (n : Nat) (ps : List Piece) (p : Piece) (qs : List Piece) :
    ⟨p.token, n + byteLength (rowChars ps ++ p.blanks)⟩ ∈ rowTokens n (ps ++ p :: qs) := by
  induction ps generalizing n with
  | nil => exact List.mem_cons_self
  | cons q ps ih =>
    have hoffset : n + byteLength (rowChars (q :: ps) ++ p.blanks) =
        n + byteLength q.chars + byteLength (rowChars ps ++ p.blanks) := by
      rw [rowChars, List.flatMap_cons, List.append_assoc, byteLength_append, Nat.add_assoc]
      rfl
    rw [hoffset]
    exact List.mem_cons_of_mem _ (ih _)

/-- The first semicolon of a text is in a quoted name behind some pieces. -/
theorem exists_row_of_mem {s : String} {l : TokenList} (h : tokenize s = .ok l)
    (hm : ';' ∈ s.toList) : ∃ ps p qs, ∃ name : String, ∃ rest,
      s.toList = rowChars ps ++ (p.chars ++ rest) ∧ (ps ++ p :: qs).IsChain Piece.Before ∧
      ⟨.quoted name, byteLength (rowChars ps ++ p.blanks)⟩ ∈ l.tokens ∧
      ';' ∉ rowChars ps ++ p.blanks ∧ p.chars = p.blanks ++ Name.quoteChars name.toList ∧
      ';' ∈ name.toList := by
  obtain ⟨ps, tail, hrow, htail, hchain, htokens, -⟩ := exists_row_of_tokenize h
  rw [hrow, List.mem_append] at hm
  have hpieces : ';' ∈ rowChars ps := by
    rcases hm with hm | hm
    · exact hm
    · exact absurd (htail _ hm) (by decide)
  obtain ⟨before, p, after, rfl, hbefore, hp⟩ := exists_first_piece hpieces
  obtain ⟨name, htoken, hchars, hname⟩ := Piece.exists_quoted_of_mem hp
  have hblanks : ';' ∉ p.blanks := fun hb => absurd (p.blank _ hb) (by decide)
  have hmem := mem_rowTokens 0 before p after
  rw [htoken, Nat.zero_add, ← htokens] at hmem
  refine ⟨before, p, after, name, rowChars after ++ tail, ?_, hchain, hmem, ?_, hchars, hname⟩
  · rw [hrow]
    simp [rowChars]
  · simp [hbefore, hblanks]

/-- What stands before the first semicolon of a text breaks off inside of a quoted name, also
without the blanks at its end. -/
theorem exists_unterminated {s : String} {l : TokenList} (h : tokenize s = .ok l)
    {x y : List Char} (hs : s.toList = x ++ ';' :: y) (hx : ';' ∉ x) :
    ∃ before, ∃ name : String, ∃ after,
      s.toList = before ++ (Name.quoteChars name.toList ++ after) ∧
      ⟨.quoted name, byteLength before⟩ ∈ l.tokens ∧ ';' ∉ before ∧ ';' ∈ name.toList ∧
      tokenize (String.ofList (x.rdropWhile isBlank)) =
        .error (.unterminatedQuote (byteLength before)) := by
  have hm : ';' ∈ s.toList := by simp [hs]
  obtain ⟨ps, p, qs, name, rest, hsplit, hchain, htoken, hbefore, hchars, hname⟩ :=
    exists_row_of_mem h hm
  obtain ⟨u, v, huv, hu⟩ := List.eq_append_cons_of_mem hname
  have hmark : ';' ≠ Name.mark := by decide
  have hx' : x = rowChars ps ++ (p.blanks ++ Name.mark :: Name.doubleMarks u) := by
    have hcut : s.toList = rowChars ps ++ (p.blanks ++ Name.mark :: Name.doubleMarks u) ++
        ';' :: (Name.doubleMarks v ++ Name.mark :: rest) := by
      rw [hsplit, hchars, huv]
      simp [Name.quoteChars, Name.doubleMarks_append, Name.doubleMarks, hmark]
    have hleft : ';' ∉ rowChars ps ++ (p.blanks ++ Name.mark :: Name.doubleMarks u) := by
      rw [← List.append_assoc, List.mem_append]
      simp only [hbefore, false_or, List.mem_cons, hmark, Name.mem_doubleMarks, hu,
        not_false_eq_true]
    -- Both are the part of the text before its first semicolon.
    rw [← (cut_append_cons hx y).1, ← hs, hcut, (cut_append_cons hleft _).1]
  refine ⟨rowChars ps ++ p.blanks, name, rest, ?_, htoken, hbefore, hname, ?_⟩
  · rw [hsplit, hchars, List.append_assoc, List.append_assoc]
  · have hblank : isBlank Name.mark = false := by decide
    rw [hx', ← List.append_assoc, rdropWhile_append_cons hblank, rdropWhile_doubleMarks,
      List.append_assoc, tokenize, Cursor.ofString, String.toList_ofList,
      tokens_row_unterminated hchain hchars]
    rfl

end SqlSchema.Syntax
