import SqlSchema.Proofs.Lexemes
import SqlSchema.Proofs.Outcomes
import SqlSchema.Syntax.Calls

/-!
# Progress through a text

Each call of a reader that is not at the end takes at least one character, also where it answers a
fault (`Cursor.Advance`). So the answers stand at places further and further behind, there are no
more of them than characters, and then comes the end and nothing else (`calls_reach_end`). To read
all tokens is to make calls up to the end or the first fault.
-/

namespace SqlSchema.Syntax

open Text

variable {cur after : Cursor} {reading : Except LexError (Located Token)} {a : Answer}

/-! ## One call -/

theorem offset_of_lexeme_eq_error {n : Nat} {c : Char} {cs : List Char} {e : LexError}
    (h : (lexeme n c cs).answer = .error e) : e.offset = n := by
  unfold lexeme at h
  split at h
  · cases h
  · split at h
    · split at h
      · cases h
      · rw [← Except.error.inj h]
        rfl
    · split at h
      · dsimp only at h
        split at h
        · cases h
        · rw [← Except.error.inj h]
          rfl
      · split at h
        · cases h
        · rw [← Except.error.inj h]
          rfl

theorem offset_ofReading_lexeme (n : Nat) (c : Char) (cs : List Char) :
    (Answer.ofReading ((lexeme n c cs).answer.map (⟨·, n⟩))).offset = n := by
  cases h : (lexeme n c cs).answer with
  | ok token => rfl
  | error e => exact offset_of_lexeme_eq_error h

namespace Cursor

/-- What a call that reads something does: behind some blanks it takes a character, at which its
answer stands, and perhaps more. -/
structure Advance (cur : Cursor) (a : Answer) (after : Cursor) (blanks : List Char) (c : Char)
    (more : List Char) : Prop where
  rest_eq : cur.rest = blanks ++ c :: (more ++ after.rest)
  offset_eq : a.offset = cur.offset + byteLength blanks
  after_eq : after.offset = cur.offset + byteLength blanks + byteLength (c :: more)

theorem exists_advance (h : cur.next? = some (reading, after)) :
    ∃ blanks c more, cur.Advance (.ofReading reading) after blanks c more := by
  unfold next? at h
  split at h
  · cases h
  · next c cs hcs =>
    obtain ⟨rfl, rfl⟩ := Prod.mk.inj (Option.some.inj h)
    have htaken := lexeme_taken_append_rest
      (cur.offset + byteLength (cur.rest.takeWhile isBlank)) c cs
    obtain ⟨d, more, hmore⟩ := List.exists_cons_of_ne_nil
      (taken_ne_nil (cur.offset + byteLength (cur.rest.takeWhile isBlank)) c cs)
    refine ⟨cur.rest.takeWhile isBlank, d, more, ?_, offset_ofReading_lexeme _ c cs, ?_⟩
    · rw [← List.cons_append, ← hmore, htaken, ← hcs]
      exact List.takeWhile_append_dropWhile.symm
    · rw [hmore]

variable {blanks more : List Char} {c : Char}

theorem Advance.stop_eq (h : cur.Advance a after blanks c more) : after.stop = cur.stop := by
  unfold stop
  rw [h.rest_eq, h.after_eq, ← List.cons_append, byteLength_append, byteLength_append]
  omega

theorem Advance.offset_lt (h : cur.Advance a after blanks c more) : a.offset < after.offset := by
  have hc : 0 < c.utf8Size := c.utf8Size_pos
  rw [h.offset_eq, h.after_eq, byteLength]
  omega

theorem Advance.length_lt (h : cur.Advance a after blanks c more) :
    after.rest.length < cur.rest.length := by
  rw [h.rest_eq]
  simp only [List.length_append, List.length_cons]
  omega

/-! ## All calls -/

/-- What calls answer from here on, up to the end. -/
def readings (cur : Cursor) : List Answer :=
  match _h : cur.next? with
  | none => []
  | some (reading, after) => .ofReading reading :: after.readings
termination_by cur.rest.length
decreasing_by exact length_rest_lt _h

theorem readings_of_none (h : cur.next? = none) : cur.readings = [] := by
  rw [readings]
  split
  · rfl
  · next hsome =>
    rw [h] at hsome
    cases hsome

theorem readings_of_some (h : cur.next? = some (reading, after)) :
    cur.readings = .ofReading reading :: after.readings := by
  rw [readings]
  split
  · next hnone =>
    rw [h] at hnone
    cases hnone
  · next hsome =>
    obtain ⟨rfl, rfl⟩ := Prod.mk.inj (Option.some.inj (h.symm.trans hsome))
    rfl

theorem ne_stop_of_mem_readings (h : a ∈ cur.readings) (n : Nat) : a ≠ .stop n := by
  fun_induction readings cur with
  | case1 => cases h
  | case2 cur reading after hnext ih =>
    rcases List.mem_cons.1 h with rfl | h
    · cases reading <;> exact nofun
    · exact ih h

/-- After what can be read every call answers the end. -/
theorem answers_eq (n : Nat) (cur : Cursor) :
    cur.answers n =
      cur.readings.take n ++ List.replicate (n - cur.readings.length) (Answer.stop cur.stop) := by
  induction n generalizing cur with
  | zero => rw [Nat.zero_sub]; rfl
  | succ n ih =>
    rw [answers, ih, call]
    cases h : cur.next? with
    | none =>
      have hstay : (⟨[], cur.stop⟩ : Cursor).readings = [] := readings_of_none rfl
      have hstop : (⟨[], cur.stop⟩ : Cursor).stop = cur.stop := rfl
      dsimp only
      rw [readings_of_none h, hstay, hstop, List.take_nil, List.take_nil]
      rfl
    | some next =>
      obtain ⟨reading, after⟩ := next
      obtain ⟨blanks, c, more, hadvance⟩ := exists_advance h
      dsimp only
      rw [readings_of_some h, hadvance.stop_eq, List.take_succ_cons, List.length_cons,
        Nat.add_sub_add_right, List.cons_append]

/-- Each answer stands at a character of the text. -/
theorem exists_split_of_mem_readings (h : a ∈ cur.readings) :
    ∃ front c back, cur.rest = front ++ c :: back ∧ a.offset = cur.offset + byteLength front := by
  fun_induction readings cur with
  | case1 => cases h
  | case2 cur reading after hnext ih =>
    obtain ⟨blanks, c, more, hadvance⟩ := exists_advance hnext
    rcases List.mem_cons.1 h with rfl | h
    · exact ⟨blanks, c, more ++ after.rest, hadvance.rest_eq, hadvance.offset_eq⟩
    · obtain ⟨front, d, back, hrest, hoffset⟩ := ih h
      refine ⟨blanks ++ c :: more ++ front, d, back, ?_, ?_⟩
      · rw [hadvance.rest_eq, hrest]
        simp only [List.append_assoc, List.cons_append]
      · rw [hoffset, hadvance.after_eq, byteLength_append, byteLength_append]
        omega

theorem offset_le_of_mem_readings (h : a ∈ cur.readings) : cur.offset ≤ a.offset := by
  obtain ⟨front, c, back, -, hoffset⟩ := exists_split_of_mem_readings h
  omega

theorem offset_lt_stop_of_mem_readings (h : a ∈ cur.readings) : a.offset < cur.stop := by
  obtain ⟨front, c, back, hrest, hoffset⟩ := exists_split_of_mem_readings h
  have hc : 0 < c.utf8Size := c.utf8Size_pos
  unfold stop
  rw [hoffset, hrest, byteLength_append, byteLength]
  omega

theorem pairwise_readings (cur : Cursor) :
    cur.readings.Pairwise fun a b => a.offset < b.offset := by
  fun_induction readings cur with
  | case1 => exact List.Pairwise.nil
  | case2 cur reading after hnext ih =>
    obtain ⟨blanks, c, more, hadvance⟩ := exists_advance hnext
    refine List.pairwise_cons.2 ⟨?_, ih⟩
    intro b hb
    exact Nat.lt_of_lt_of_le hadvance.offset_lt (offset_le_of_mem_readings hb)

theorem length_readings_le (cur : Cursor) : cur.readings.length ≤ cur.rest.length := by
  fun_induction readings cur with
  | case1 => exact Nat.zero_le _
  | case2 cur reading after hnext ih =>
    obtain ⟨blanks, c, more, hadvance⟩ := exists_advance hnext
    have := hadvance.length_lt
    rw [List.length_cons]
    omega

/-- The tokens are what calls answer, or the first fault among the answers. -/
theorem tokens_cases (cur : Cursor) :
    (∃ ts, cur.tokens = .ok ts ∧ cur.readings = ts.map Answer.token) ∨
      ∃ e later, ∃ ts : List (Located Token), cur.tokens = .error e ∧
        cur.readings = ts.map Answer.token ++ .fault e :: later := by
  fun_induction tokens cur with
  | case1 cur hnext => exact Or.inl ⟨[], rfl, readings_of_none hnext⟩
  | case2 cur e after hnext =>
    exact Or.inr ⟨e, after.readings, [], rfl, readings_of_some hnext⟩
  | case3 cur t after hnext ih =>
    rw [readings_of_some hnext]
    rcases ih with ⟨ts, hts, hreadings⟩ | ⟨e, later, ts, hts, hreadings⟩
    · refine Or.inl ⟨t :: ts, ?_, ?_⟩
      · rw [hts]
        rfl
      · rw [hreadings]
        rfl
    · refine Or.inr ⟨e, later, t :: ts, ?_, ?_⟩
      · rw [hts]
        rfl
      · rw [hreadings]
        rfl

end Cursor

/-- Calls answer tokens and faults first, and from then on the end of the text. What is answered
before the end stands at characters of the text, each further behind than the one before, and there
is no more of it than characters. To read all tokens of the text gives just these answers if none
of them is a fault, and otherwise the first fault. -/
theorem calls_reach_end (s : String) : ∃ before : List Answer,
    (∀ n, (Cursor.ofString s).answers n =
      before.take n ++ List.replicate (n - before.length) (Answer.stop s.utf8ByteSize)) ∧
    (∀ a ∈ before, ∀ n, a ≠ .stop n) ∧
    ((before ++ [Answer.stop s.utf8ByteSize]).Pairwise fun a b => a.offset < b.offset) ∧
    (∀ a ∈ before, ∃ front c back, s.toList = front ++ c :: back ∧
      a.offset = byteLength front) ∧
    before.length ≤ s.length ∧
    ((∃ l, tokenize s = .ok l ∧ before = l.tokens.map Answer.token ∧ l.stop = s.utf8ByteSize) ∨
      ∃ e later, ∃ ts : List (Located Token), tokenize s = .error e ∧
        before = ts.map Answer.token ++ .fault e :: later) := by
  have hstop : (Cursor.ofString s).stop = s.utf8ByteSize := by
    simp [Cursor.ofString, Cursor.stop, byteLength_toList]
  refine ⟨(Cursor.ofString s).readings, ?_, ?_, ?_, ?_, ?_, ?_⟩
  · intro n
    rw [Cursor.answers_eq, hstop]
  · intro a ha n
    exact Cursor.ne_stop_of_mem_readings ha n
  · refine List.pairwise_append.2 ⟨Cursor.pairwise_readings _, List.pairwise_singleton _ _, ?_⟩
    intro a ha b hb
    rw [List.mem_singleton.1 hb, ← hstop]
    exact Cursor.offset_lt_stop_of_mem_readings ha
  · intro a ha
    obtain ⟨front, c, back, hrest, hoffset⟩ := Cursor.exists_split_of_mem_readings ha
    refine ⟨front, c, back, hrest, ?_⟩
    rw [hoffset]
    exact Nat.zero_add _
  · exact Cursor.length_readings_le _
  · unfold tokenize
    rcases (Cursor.ofString s).tokens_cases with
      ⟨ts, hts, hreadings⟩ | ⟨e, later, ts, hts, hreadings⟩
    · rw [hts, hstop]
      exact Or.inl ⟨_, rfl, hreadings, rfl⟩
    · rw [hts]
      exact Or.inr ⟨e, later, ts, rfl, hreadings⟩

/-- A character that starts nothing is taken alone, a number that is too large with all its digits,
and a quoted name without an end with all that follows. -/
example : (Cursor.ofString "é4294967296x ` ").answers 6 =
    [.fault (.unexpectedChar 'é' 0), .fault (.invalidNumber "4294967296" 2),
      .token ⟨.ident "x", 12⟩, .fault (.unterminatedQuote 14), .stop 16, .stop 16] := by cbv

end SqlSchema.Syntax
