import SqlSchema.Proofs.ColumnReading
import SqlSchema.Proofs.Pieces
import SqlSchema.Proofs.RoundTrip
import SqlSchema.Proofs.TypeDescents

/-!
# Safety of the parser

Reading by recursive descent comes to the same as reading place by place, with the same log. It always
comes to an end, and on its way the position stays within the tokens and the depth within its limit
(`parser_safe`).
-/

namespace SqlSchema.Syntax

open Log

variable {β : Type} {l : TokenList} {p : Parser} {ts : Tokens}

/-! ## Reading to the end -/

/-- What reading comes to when the text ends behind some tokens, and what follows from the type. -/
def TypeReader.readOn (stop : Nat) (after : DataType → Logged ParseError β) (r : TypeReader)
    (ts : Tokens) : Logged ParseError β :=
  r.run ts >>= fun place => place.finish stop >>= after

theorem TypeReader.readsOn (stop : Nat) (after : DataType → Logged ParseError β) :
    ReadsOn stop (readOn stop after) where
  cons_eq p k ts _ := by simp only [readOn, run, bind_assoc]
  nil_eq p hp := by
    rw [readOn, run, pure_bind]
    cases p with
    | done t => exact absurd rfl (hp t)
    | _ => rfl

namespace SchemaReader

/-- What reading comes to when the text ends behind some tokens, and what follows from the schema. -/
def readOn (stop : Nat) (after : Schema → Logged ParseError β) (r : SchemaReader) (ts : Tokens) :
    Logged ParseError β :=
  r.run ts >>= fun place => place.finish stop >>= after

variable {stop : Nat} {after : Schema → Logged ParseError β}

theorem readOn_cons (r : SchemaReader) (k : Located Token) (ts : Tokens) :
    readOn stop after r (k :: ts) =
      r.step k.item k.offset >>= fun place => readOn stop after place ts := by
  simp only [readOn, run, bind_assoc]

theorem readOn_nil (r : SchemaReader) :
    readOn stop after r [] = r.finish stop >>= after := by
  rw [readOn, run, pure_bind]

/-- In the type of a column reading goes on as in a type. -/
theorem readsOn_ofType (earlier : Schema) (name : String) :
    ReadsOn stop fun place ts => readOn stop after (ofType earlier name place) ts where
  cons_eq p k ts hp := by
    rw [ofType_of_ne_done hp, readOn_cons]
    simp only [step, bind_assoc, pure_bind]
  nil_eq p hp := by
    rw [ofType_of_ne_done hp, readOn_nil]
    rfl

theorem accepts_name (earlier : Schema) :
    Accepts (readOn stop after (.nextColumn earlier)) .name Token.name? fun n us =>
      readOn stop after (.columnType earlier n.item (.start [])) us where
  nil_eq := by rw [readOn_nil]; rfl
  none_eq k ts hk := by
    rw [readOn_cons, step, beginColumn, hk]
    rfl
  some_eq k ts a hk := by
    rw [readOn_cons, step, beginColumn, hk, pure_bind]

theorem readOn_start (h : (l.mark ts).item ≠ none) :
    readOn stop after .start ts = readOn stop after (.nextColumn {}) ts := by
  cases ts with
  | nil => exact absurd rfl h
  | cons k ts => rw [readOn_cons, readOn_cons]; rfl

end SchemaReader

/-! ## Schemas -/

section Schemas

open SchemaReader (readOn readOn_cons readOn_nil)

variable {after : Schema → Logged ParseError β}

theorem follows_role (h : p.At l ts) (earlier : Schema) (column : Field) :
    Follows l 0 Descent.role p ts (readOn l.stop after (.roleOrEnd earlier column) ts)
      fun role us => readOn l.stop after (.columnEnd (earlier.add role column)) us := by
  rw [Descent.role]
  refine .current h ?_
  cases ts with
  | nil => exact .pure h _ (by rw [readOn_nil, readOn_nil]; rfl)
  | cons k ts =>
    obtain ⟨token, o⟩ := k
    cases token with
    | ident word =>
      show Follows l 0 (if SchemaReader.isKeyMark word then _ else _) p _ _ _
      split
      · next hkey =>
        refine Follows.zero (.advance_cons h (.pure h.next _ ?_))
        rw [readOn_cons]
        simp only [SchemaReader.step, hkey, if_true, pure_bind]
      · next hkey =>
        refine .pure h _ ?_
        rw [readOn_cons, readOn_cons]
        simp only [SchemaReader.step, hkey]
        rfl
    | _ => exact .pure h _ (by rw [readOn_cons, readOn_cons]; rfl)

theorem follows_columnTurn {n : Nat} (h : p.At l ts) (hd : p.depth = 0) (hn : ts.length ≤ n)
    (earlier : Schema) :
    Follows l 1 (Descent.columnTurn (Descent.type n) earlier) p ts
      (readOn l.stop after (.nextColumn earlier) ts)
      (Turn.resumed (fun columns => readOn l.stop after (.nextColumn columns))
        fun schema _ => after schema) := by
  rw [Descent.columnTurn]
  refine (Follows.accept h (SchemaReader.accepts_name earlier)).bind fun name q us h hq hus => ?_
  refine ((readsTypes (SchemaReader.readsOn_ofType earlier name.item) n q us [] h (hq.trans hd)
    (by omega)).bind fun type q us h _ _ => ?_).zero
  rw [resumed, TypeReader.complete, pure_bind]
  refine (follows_role h earlier ⟨name.item, type⟩).bind fun role q us h _ _ => ?_
  cases us with
  | nil =>
    -- At the end nothing is left to consume, but the loop ends here.
    refine .advance_nil h (.pure h _ ?_)
    rw [readOn_nil]
    exact pure_bind _ _
  | cons k us =>
    obtain ⟨token, o⟩ := k
    refine Follows.zero (.advance_cons h ?_)
    rw [readOn_cons]
    cases token with
    | comma => exact .pure h.next _ (pure_bind _ _)
    | _ => exact .throw h.next rfl

theorem follows_schema {n : Nat} (h : p.At l ts) (hd : p.depth = 0) (hn : ts.length < n) :
    Follows l 0 (Descent.schema n) p ts (readOn l.stop after .start ts)
      fun schema _ => after schema := by
  rw [Descent.schema]
  refine .current h ?_
  split
  · next hnone =>
    cases ts with
    | nil =>
      refine .pure h _ ?_
      rw [readOn_nil]
      exact pure_bind _ _
    | cons k ts => cases hnone
  · next hsome =>
    rw [SchemaReader.readOn_start hsome]
    refine Follows.zero (.loop (fun columns => readOn l.stop after (.nextColumn columns))
      (fun earlier q us hq hd' hus => ?_) h {} hn)
    exact follows_columnTurn hq (hd'.trans hd) (by omega) earlier

end Schemas

/-! ## Texts -/

theorem follows_endOfInput {after : DataType → Logged ParseError β} (h : p.At l ts)
    (t : DataType) :
    Follows l 0 Descent.endOfInput p ts (TypeReader.readOn l.stop after (.done t) ts)
      fun _ _ => after t := by
  rw [Descent.endOfInput]
  cases ts with
  | nil =>
    refine .advance_nil h (.pure h _ ?_)
    rw [TypeReader.readOn, TypeReader.run, pure_bind]
    exact pure_bind _ _
  | cons k ts =>
    refine Follows.zero (.advance_cons h ?_)
    exact .throw h.next rfl

def notedType (t : DataType) : Logged ParseError DataType := do
  Logged.note .trace .parser ("parsed type " ++ t.text)
  pure t

def notedSchema (s : Schema) : Logged ParseError Schema := do
  Logged.note .trace .parser ("parsed schema " ++ s.text)
  pure s

theorem follows_wholeType {n : Nat} (h : p.At l ts) (hd : p.depth = 0) (hn : ts.length < n) :
    Follows l 1 (Descent.wholeType n) p ts
      (TypeReader.readOn l.stop notedType (.start []) ts) fun t _ => pure t := by
  rw [Descent.wholeType]
  refine (readsTypes (TypeReader.readsOn l.stop _) n p ts [] h hd hn).bind fun t q us h _ _ => ?_
  rw [resumed, TypeReader.complete, pure_bind]
  refine (follows_endOfInput h t).bind fun _ q us h _ _ => ?_
  exact .bind_act h (Logged.acts_note _ _ _).symm (.ok _) fun _ q h _ => .pure h _ rfl

theorem follows_wholeSchema {n : Nat} (h : p.At l ts) (hd : p.depth = 0) (hn : ts.length < n) :
    Follows l 0 (Descent.wholeSchema n) p ts
      (SchemaReader.readOn l.stop notedSchema .start ts) fun s _ => pure s := by
  rw [Descent.wholeSchema]
  refine (follows_schema h hd hn).bind fun schema q us h _ _ => ?_
  exact .bind_act h (Logged.acts_note _ _ _).symm (.ok _) fun _ q h _ => .pure h _ rfl

theorem readType_eq {s : String} (h : tokenize s = .ok l) :
    readType s = TypeReader.readOn l.stop notedType (.start []) l.tokens := by
  rw [readType, readTokens, h]
  rfl

theorem readSchema_eq {s : String} (h : tokenize s = .ok l) :
    readSchema s = SchemaReader.readOn l.stop notedSchema .start l.tokens := by
  rw [readSchema, readTokens, h]
  rfl

theorem Follows.exists_leads {α : Type} {n : Nat} {x : Descent α} {y : Logged ParseError α}
    (h : Follows l n x p ts y fun a _ => Pure.pure a) : ∃ q us, Leads l n x p ts y q us := by
  obtain ⟨z, q, us, hz, rfl⟩ := h
  exact ⟨q, us, by rwa [bind_pure]⟩

theorem exists_leads_wholeType {s : String} (h : tokenize s = .ok l) {n : Nat}
    (hn : l.tokens.length < n) (j : Journal) :
    ∃ q us, Leads l 1 (Descent.wholeType n) (.start l j) l.tokens (readType s) q us := by
  rw [readType_eq h]
  exact (follows_wholeType (Parser.At.start l j) rfl hn).exists_leads

theorem exists_leads_wholeSchema {s : String} (h : tokenize s = .ok l) {n : Nat}
    (hn : l.tokens.length < n) (j : Journal) :
    ∃ q us, Leads l 0 (Descent.wholeSchema n) (.start l j) l.tokens (readSchema s) q us := by
  rw [readSchema_eq h]
  exact (follows_wholeSchema (Parser.At.start l j) rfl hn).exists_leads

theorem TokenList.length_tokens_lt (l : TokenList) : l.tokens.length < l.marks.length := by
  rw [l.length_marks]
  exact Nat.lt_succ_self _

/-- Descents that come to what some reading does, whatever the journal is, play the log of that. -/
theorem ofText_eq_acts {α : Type} {n : Nat} {x : Nat → Descent α} {y : Logged ParseError α}
    {s : String} (hfail : ∀ e, tokenize s = .error e → y = Logged.fail (.lexical e))
    (hlead : ∀ l, tokenize s = .ok l → ∀ j, ∃ q us,
      Leads l n (x l.marks.length) (.start l j) l.tokens y q us) :
    Descent.ofText x s = y.acts := by
  unfold Descent.ofText
  cases h : tokenize s with
  | error e => rw [hfail e h, Logged.acts_fail]
  | ok l =>
    refine Acting.ext fun j => ?_
    obtain ⟨q, us, hx⟩ := hlead l h j
    show ((x l.marks.length).run.run (.start l j)).map _ = _
    rw [hx.run_eq, Option.map_some, hx.journal_eq]
    rfl

/-- Types are read by descent as they are read place by place, with the same log. -/
theorem ofText_wholeType (s : String) :
    Descent.ofText Descent.wholeType s = (readType s).acts :=
  ofText_eq_acts (fun e h => by rw [readType, readTokens, h]; rfl)
    fun l h => exists_leads_wholeType h l.length_tokens_lt

theorem ofText_wholeSchema (s : String) :
    Descent.ofText Descent.wholeSchema s = (readSchema s).acts :=
  ofText_eq_acts (fun e h => by rw [readSchema, readTokens, h]; rfl)
    fun l h => exists_leads_wholeSchema h l.length_tokens_lt

/-! ## Calls and turns from any safe state -/

theorem Parser.At.length_le (h : p.At l ts) : ts.length ≤ l.tokens.length := by
  have heq := h.length_eq
  omega

section Safe

variable {n : Nat} (h : p.At l ts) (hn : l.tokens.length < n)

include h hn

theorem exists_leads_type : ∃ y q us, Leads l 1 (Descent.type n) p ts y q us := by
  obtain ⟨y, q, us, hy, -⟩ := readsTypes (TypeReader.readsOn l.stop pure) n p ts
    (List.replicate p.depth .item) h List.length_replicate.symm (Nat.lt_of_le_of_lt h.length_le hn)
  exact ⟨y, q, us, hy⟩

theorem exists_leads_fieldTurn (hd : p.depth ≠ 0) (fields : IndexedFields) :
    ∃ y q us, Leads l 1 (Descent.fieldTurn (Descent.type n) fields) p ts y q us := by
  have hr := TypeReader.readsOn l.stop pure
  have hts := Nat.lt_of_le_of_lt h.length_le hn
  have houter : p.depth = (List.replicate (p.depth - 1) Frame.item).length + 1 := by
    rw [List.length_replicate]
    omega
  obtain ⟨y, q, us, hy, -⟩ :=
    follows_fieldTurn hr ((readsTypes hr n).mono hts.le) h houter fields
  exact ⟨y, q, us, hy⟩

theorem exists_leads_columnTurn (hd : p.depth = 0) (columns : Schema) :
    ∃ y q us, Leads l 1 (Descent.columnTurn (Descent.type n) columns) p ts y q us := by
  have hts := Nat.lt_of_le_of_lt h.length_le hn
  have hturn : Follows l 1 _ p ts (SchemaReader.readOn l.stop pure (.nextColumn columns) ts) _ :=
    follows_columnTurn h hd hts.le columns
  obtain ⟨y, q, us, hy, -⟩ := hturn
  exact ⟨y, q, us, hy⟩

end Safe

/-- Reading a text that consists of tokens always comes to an end, and to what is read place by place:
any bound on calls and turns above the number of the tokens will do. On the way the position stays
within the tokens and the depth within 256, and the depth is the number of calls of `type` in progress
without the innermost one while that has not raised it or has taken it back; so there are never more
than 257 of them. From any parser that is safe in this way a call of `type` comes to an end at the depth
at which it began, and at depth 256 it is refused as it begins. A turn of a loop comes to an error or
consumes a token. -/
theorem parser_safe {s : String} {l : TokenList} (h : tokenize s = .ok l) {n : Nat}
    (hn : l.tokens.length < n) :
    (∀ j, ∃ q us, Leads l 1 (Descent.wholeType n) (.start l j) l.tokens (readType s) q us) ∧
      (∀ j, ∃ q us, Leads l 0 (Descent.wholeSchema n) (.start l j) l.tokens (readSchema s) q us) ∧
      (∀ m : Moment, m.Safe l → m.calls.length ≤ nestingLimit + 1) ∧
      ∀ p ts, p.At l ts →
        (∃ y q us, Leads l 1 (Descent.type n) p ts y q us) ∧
        (p.depth = nestingLimit →
          Leads l 1 (Descent.type n) p ts (Logged.fail (.tooDeep (l.mark ts).offset))
            p.begin.resume ts) ∧
        (p.depth ≠ 0 → ∀ fields, ∃ y q us,
          Leads l 1 (Descent.fieldTurn (Descent.type n) fields) p ts y q us) ∧
        (p.depth = 0 → ∀ columns, ∃ y q us,
          Leads l 1 (Descent.columnTurn (Descent.type n) columns) p ts y q us) := by
  refine ⟨exists_leads_wholeType h hn, exists_leads_wholeSchema h hn,
    fun m hm => hm.length_calls_le, fun p ts hp => ⟨?_, fun hd => ?_, ?_, ?_⟩⟩
  · exact exists_leads_type hp hn
  · obtain ⟨k, rfl⟩ : ∃ k, n = k + 1 := ⟨n - 1, by omega⟩
    exact Leads.tooDeep hp hd _
  · exact exists_leads_fieldTurn hp hn
  · exact exists_leads_columnTurn hp hn

/-- Before the type of a field the first call stands inside. -/
theorem parser_safe_field :
    ∃ l p ts, tokenize "STRUCT<a INT>" = .ok l ∧ p.At l ts ∧ p.pos = 3 ∧ p.calls = [.inside] ∧
      (∀ j, ∃ q us, Leads l 1 (Descent.wholeType 6) (.start l j) l.tokens
        (readType "STRUCT<a INT>") q us) ∧
      (∀ j, ∃ q us, Leads l 0 (Descent.wholeSchema 6) (.start l j) l.tokens
        (readSchema "STRUCT<a INT>") q us) ∧
      (∃ y q us, Leads l 1 (Descent.type 6) p ts y q us) ∧
      (∀ fields, ∃ y q us, Leads l 1 (Descent.fieldTurn (Descent.type 6) fields) p ts y q us) ∧
      ∀ columns, ∃ y q us, Leads l 1 (Descent.columnTurn (Descent.type 6) columns)
        (.start l { logger := {} }) l.tokens y q us := by
  have htokens : tokenize "STRUCT<a INT>" = .ok ⟨[⟨.ident "STRUCT", 0⟩, ⟨.lt, 6⟩,
      ⟨.ident "a", 7⟩, ⟨.ident "INT", 9⟩, ⟨.gt, 12⟩], 13⟩ :=
    tokenize_eq_of_tokensBelow 6 (by decide +kernel)
  have hstart := Parser.At.start ⟨[⟨.ident "STRUCT", 0⟩, ⟨.lt, 6⟩, ⟨.ident "a", 7⟩,
    ⟨.ident "INT", 9⟩, ⟨.gt, 12⟩], 13⟩ { logger := {} }
  have hfield := (hstart.begin_enter (by decide)).next.next.next
  obtain ⟨htype, hschema, -, hcalls⟩ := parser_safe htokens (n := 6) (by decide)
  exact ⟨_, _, _, htokens, hfield, rfl, rfl, htype, hschema, (hcalls _ _ hfield).1,
    (hcalls _ _ hfield).2.2.1 (by decide), (hcalls _ _ hstart).2.2.2 rfl⟩

/-! ## Texts that are too deep -/

/-- The text of a type that is nested too deep leads to one call more than the limit, and is
refused. -/
theorem calls_of_nesting (reserved : ReservedWords) {t : DataType} (h : t.WellFormed)
    (hn : nestingLimit < t.nesting) (j : Journal) :
    ∃ l q o, tokenize (t.render reserved) = .ok l ∧
      (Descent.wholeType l.marks.length).run.run (.start l j) = some (.error (.tooDeep o), q) ∧
      ∃ m ∈ q.reached, m.depth = nestingLimit ∧ m.calls.length = nestingLimit + 1 := by
  obtain ⟨ts, hts, -⟩ := t.exists_tokens reserved 0
  obtain ⟨part, hpart⟩ := DataType.exists_tooDeep reserved 0 h hn
  have hread : (readType (t.render reserved)).outcome = .error (.tooDeep part.offset) := by
    rw [readType_render_eq, t.resolve_tree reserved 0 h (Nat.zero_le _), hpart]
    rfl
  obtain ⟨q, us, hq⟩ := exists_leads_wholeType hts.tokenize_eq (TokenList.length_tokens_lt _) j
  exact ⟨_, q, part.offset, hts.tokenize_eq, hread ▸ hq.run_eq, hq.refused _ hread⟩

/-- In 256 arrays around an integer there are 257 calls in progress at depth 256. -/
theorem calls_of_nested_arrays :
    ∃ l q o, tokenize ((Nat.repeat .array 256 .integer : DataType).render .none) = .ok l ∧
      (Descent.wholeType l.marks.length).run.run (.start l { logger := {} }) =
        some (.error (.tooDeep o), q) ∧
      ∃ m ∈ q.reached, m.depth = 256 ∧ m.calls.length = 257 :=
  calls_of_nesting .none (by unfold Nat.repeat; exact trivial) (by decide +kernel) _

end SqlSchema.Syntax
