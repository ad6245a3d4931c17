import SqlSchema.Proofs.Pieces
import SqlSchema.Proofs.Sentences
import SqlSchema.Proofs.Faults

/-!
# Where a syntax error points

A reader fails at the first token that no sentence can have there, and at the end of a text only if
some sentence goes on from it (`syntax_errors_exact`).

That the tokens before can be completed is known from the place that was reached. That the token at
fault fits no completion comes from reading one: a sentence is read to its meaning or to a fault of
it, never to a syntax error (`ReadsSentences`), and whatever follows the token at fault, reading
ends there.
-/

namespace SqlSchema.Syntax

open Log

/-! ## Reading a sentence -/

/-- The fault lies in what a text means: a type too deep inside others or a type that cannot be
built. -/
def ParseError.isSemantic : ParseError → Bool
  | .tooDeep _ => true
  | .invalid _ _ => true
  | _ => false

mutual

theorem Tree.isSemantic_of_resolve {depth : Nat} {e : ParseError} (x : Tree)
    (h : x.resolve depth = .error e) : e.isSemantic := by
  rw [Tree.resolve.eq_def] at h
  split at h
  · cases x with
    | simple o t => cases h
    | decimal o p s =>
      rw [map_eq_error_iff, mapError_eq_error_iff] at h
      obtain ⟨c, -, rfl⟩ := h
      rfl
    | array o x =>
      rw [map_eq_error_iff] at h
      exact x.isSemantic_of_resolve h
    | map o k v =>
      rcases bind_eq_error_iff.1 h with h | ⟨a, -, h⟩
      · exact k.isSemantic_of_resolve h
      · rcases bind_eq_error_iff.1 h with h | ⟨b, -, h⟩
        · exact v.isSemantic_of_resolve h
        · cases h
    | struct o fs =>
      rw [map_eq_error_iff] at h
      exact isSemantic_of_resolveFields fs h
  · obtain rfl := Except.error.inj h
    rfl

theorem isSemantic_of_resolveFields {depth : Nat} {l : FieldList} {e : ParseError}
    (fs : List FieldTree) (h : resolveFields depth l fs = .error e) : e.isSemantic := by
  cases fs with
  | nil => cases h
  | cons f fs =>
    obtain ⟨name, o, x⟩ := f
    rw [resolveFields] at h
    rcases bind_eq_error_iff.1 h with h | ⟨t, -, h⟩
    · exact x.isSemantic_of_resolve h
    · rcases bind_eq_error_iff.1 h with h | ⟨l', -, h⟩
      · obtain ⟨c, -, rfl⟩ := mapError_eq_error_iff.1 h
        rfl
      · exact isSemantic_of_resolveFields fs h

end

theorem isSemantic_of_resolveColumns {s : Schema} {e : ParseError} {cs : List ColumnTree}
    (h : resolveColumns s cs = .error e) : e.isSemantic := by
  induction cs generalizing s with
  | nil => cases h
  | cons c cs ih =>
    obtain ⟨name, x, role⟩ := c
    rw [resolveColumns] at h
    rcases bind_eq_error_iff.1 h with h | ⟨t, -, h⟩
    · exact x.isSemantic_of_resolve h
    · exact ih h

/-- Reading a sentence fails at most for what it means. -/
def ReadsSentences {α : Type} (Sentence : List Token → Prop)
    (read : Tokens → Except ParseError α) : Prop :=
  ∀ ts e, Sentence (items ts) → read ts = .error e → e.isSemantic

theorem readsSentences_type (stop : Nat) :
    ReadsSentences TypeSentence ((TypeReader.start []).readAll stop) := by
  intro ts e hs h
  obtain ⟨x, hx⟩ := hs.exists_derives
  rw [hx.readAll_eq] at h
  exact x.isSemantic_of_resolve h

theorem readsSentences_schema (stop : Nat) :
    ReadsSentences SchemaSentence (SchemaReader.start.readAll stop) := by
  intro ts e hs h
  obtain ⟨cs, hc⟩ := hs.exists_derives
  rw [hc.readAll_eq] at h
  exact isSemantic_of_resolveColumns h

/-- No sentence starts with tokens at whose last one reading ends with a syntax error. -/
theorem ReadsSentences.not_viable {α : Type} {Sentence : List Token → Prop}
    {read : Tokens → Except ParseError α} (h : ReadsSentences Sentence read) {before : Tokens}
    {k : Located Token} {e : ParseError} (he : e.isSemantic = false)
    (hread : ∀ rest, read (before ++ k :: rest) = .error e) :
    ¬ Viable Sentence (items before ++ [k.item]) := by
  rintro ⟨rest, hs⟩
  have hitems : items before ++ [k.item] ++ rest =
      items (before ++ k :: rest.map fun r => ⟨r, 0⟩) := by
    simp [items, Function.comp_def]
  rw [hitems] at hs
  rw [h _ _ hs (hread _)] at he
  cases he

/-! ## What an error says about its place -/

/-- The tokens that start before the offset `o`. -/
def TokenList.before (l : TokenList) (o : Nat) : Tokens :=
  l.tokens.filter (·.offset < o)

/-- The token `k` starts at the offset `o`. Some sentence starts with the tokens before it, but none
starts with these tokens and `k`. -/
def BreaksAt (Sentence : List Token → Prop) (l : TokenList) (k : Token) (o : Nat) : Prop :=
  (∃ after, l.tokens = l.before o ++ ⟨k, o⟩ :: after) ∧
    Viable Sentence (items (l.before o)) ∧ ¬ Viable Sentence (items (l.before o) ++ [k])

/-- The tokens are the start of a sentence, but no sentence yet. -/
def BreaksOff (Sentence : List Token → Prop) (l : TokenList) : Prop :=
  ¬ Sentence (items l.tokens) ∧ ∃ rest, rest ≠ [] ∧ Sentence (items l.tokens ++ rest)

/-- A type must start behind the tokens, inside of `n` types. -/
def OpensType (ts : Tokens) (n : Nat) : Prop :=
  ∃ outer, Opened ts outer ∧ outer.length = n

/-- A type must start behind the tokens, inside of `n` types of a column. -/
inductive OpensColumnType : Tokens → Nat → Prop
  | column {ts us : Tokens} {k : Token} {name : String} {o n : Nat} : ColumnsBefore ts →
      k.name? = some name → OpensType us n → OpensColumnType (ts ++ ⟨k, o⟩ :: us) n

/-- The place that an error points at is the first one where the text is no start of a sentence. An
error about the nesting points at a type inside of as many others as there may be. -/
def ParseError.Exact (Sentence : List Token → Prop) (Opens : Tokens → Nat → Prop)
    (l : TokenList) : ParseError → Prop
  | .unexpectedToken _ k o => BreaksAt Sentence l k o
  | .unknownType w o => BreaksAt Sentence l (.ident w) o
  | .unexpectedEnd _ => BreaksOff Sentence l
  | .tooDeep o => Viable Sentence (items (l.before o)) ∧ Opens (l.before o) nestingLimit
  | _ => True

theorem TokenList.before_eq {l : TokenList} {before after : Tokens} {k : Located Token}
    (hl : l.tokens = before ++ k :: after)
    (ho : l.tokens.Pairwise fun j k => j.offset < k.offset) : l.before k.offset = before := by
  rw [hl, List.pairwise_append, List.pairwise_cons] at ho
  obtain ⟨-, ⟨hafter, -⟩, hbefore⟩ := ho
  have hb : before.filter (·.offset < k.offset) = before :=
    List.filter_eq_self.2 fun j hj => decide_eq_true (hbefore j hj k (by simp))
  have ha : (k :: after).filter (·.offset < k.offset) = [] := by
    refine List.filter_eq_nil_iff.2 ?_
    intro j hj
    rcases List.mem_cons.1 hj with rfl | hj
    · simp
    · have := hafter j hj
      simp only [decide_eq_true_eq]
      omega
  rw [TokenList.before, hl, List.filter_append, hb, ha, List.append_nil]

section

variable {α : Type} {Sentence : List Token → Prop} {Opens : Tokens → Nat → Prop} {l : TokenList}
  {read : Tokens → Except ParseError α} {Deep : Prop} {e : ParseError}

theorem StepError.exact {before after : Tokens} {k : Located Token}
    (he : StepError Deep k.item k.offset e) (hl : l.tokens = before ++ k :: after)
    (ho : l.tokens.Pairwise fun j k => j.offset < k.offset)
    (hv : Viable Sentence (items before)) (hread : ReadsSentences Sentence read)
    (hfail : ∀ rest, read (before ++ k :: rest) = .error e) 
    (hdeep : Deep → Opens before nestingLimit) : e.Exact Sentence Opens l := by
  have hbefore := TokenList.before_eq hl ho
  obtain ⟨item, o⟩ := k
  dsimp only at he hbefore
  have hbreaks (hs : e.isSemantic = false) : BreaksAt Sentence l item o := by
    rw [BreaksAt, hbefore]
    exact ⟨⟨after, hl⟩, hv, hread.not_viable hs hfail⟩
  cases he with
  | unexpected x => exact hbreaks rfl
  | unknown w hw =>
    subst hw
    exact hbreaks rfl
  | tooDeep hd =>
    rw [ParseError.Exact, hbefore]
    exact ⟨hv, hdeep hd⟩
  | invalid cause o' => trivial

theorem EndError.exact (he : EndError Deep l.stop e) (hstop : ∀ k ∈ l.tokens, k.offset < l.stop)
    (hv : Viable Sentence (items l.tokens)) (hread : ReadsSentences Sentence read)
    (hfail : read l.tokens = .error e) (hdeep : Deep → Opens l.tokens nestingLimit) :
    e.Exact Sentence Opens l := by
  cases he with
  | unexpected x =>
    have hnot : ¬ Sentence (items l.tokens) := by
      intro hs
      have := hread _ _ hs hfail
      cases this
    obtain ⟨rest, hs⟩ := hv
    refine ⟨hnot, rest, ?_, hs⟩
    rintro rfl
    rw [List.append_nil] at hs
    exact hnot hs
  | tooDeep hd =>
    have hall : l.before l.stop = l.tokens :=
      List.filter_eq_self.2 fun k hk => decide_eq_true (hstop k hk)
    rw [ParseError.Exact, hall]
    exact ⟨hv, hdeep hd⟩

end

/-- The errors of a reader are exact if its places can be completed and its steps fail at their
tokens. -/
theorem exact_of_reading {σ α : Type} {step : σ → Token → Nat → Logged ParseError σ}
    {run : σ → Tokens → Logged ParseError σ} {finish : σ → Nat → Logged ParseError α} {start : σ}
    {Full : σ → Prop} {Sentence : List Token → Prop} {Opens : Tokens → Nat → Prop}
    (hruns : Runs step run)
    (hviable : ∀ ts q, (run start ts).outcome = .ok q → Viable Sentence (items ts))
    (hopens : ∀ ts q, (run start ts).outcome = .ok q → Full q → Opens ts nestingLimit)
    (hstep : ∀ q k o e, (step q k o).outcome = .error e → StepError (Full q) k o e)
    (hfinish : ∀ q stop e, (finish q stop).outcome = .error e → EndError (Full q) stop e)
    {s : String} {l : TokenList} (hl : tokenize s = .ok l)
    (hread : ReadsSentences Sentence fun ts => (run start ts >>= fun q => finish q l.stop).outcome)
    {e : ParseError} (h : (run start l.tokens >>= fun q => finish q l.stop).outcome = .error e) :
    e.Exact Sentence Opens l := by
  obtain ⟨ho, hstop⟩ := pairwise_of_tokenize hl
  have hall := h
  rw [Logged.outcome_bind] at h
  rcases bind_eq_error_iff.1 h with hrun | ⟨q, hq, hend⟩
  · obtain ⟨before, k, after, q, hts, hq, hk⟩ := hruns.exists_step_of_error hrun
    have hfail : ∀ rest, (run start (before ++ k :: rest) >>= fun q => finish q l.stop).outcome =
        .error e := by
      intro rest
      rw [Logged.outcome_bind]
      exact bind_eq_error_iff.2 (Or.inl (hruns.error_of_step hq hk rest))
    exact (hstep _ _ _ _ hk).exact hts ho (hviable _ _ hq) hread hfail (hopens _ _ hq)
  · exact (hfinish _ _ _ hend).exact hstop (hviable _ _ hq) hread hall (hopens _ _ hq)

/-! ## Types and schemas -/

theorem TypeReader.exact_of_readAll {s : String} {l : TokenList} (hl : tokenize s = .ok l)
    {e : ParseError} (h : (TypeReader.start []).readAll l.stop l.tokens = .error e) :
    e.Exact TypeSentence OpensType l := by
  have hfirst : (TypeReader.start []).Within := Nat.zero_le _
  have hreached (ts : Tokens) (q : TypeReader)
      (hq : ((TypeReader.start []).run ts).outcome = .ok q) : Reached ts q :=
    (Reached.start .none).run ts hq
  exact exact_of_reading TypeReader.runs (fun ts q hq => (hreached ts q hq).viable)
    (fun ts q hq hf => hf.exists_opened (hreached ts q hq) (hfirst.run hq))
    (fun _ _ _ _ => TypeReader.step_eq_error) (fun _ _ _ => TypeReader.finish_eq_error) hl
    (readsSentences_type l.stop) h

theorem SchemaReader.Full.opensColumnType {ts : Tokens} {r : SchemaReader} (hf : r.Full)
    (hr : ColumnsReached ts r) (hw : r.Within) : OpensColumnType ts nestingLimit := by
  obtain ⟨s, name, p, rfl, hp⟩ := hf
  cases hr with
  | columnType hb hk hreached => exact .column hb hk (hp.exists_opened hreached hw)

theorem SchemaReader.exact_of_readAll {s : String} {l : TokenList} (hl : tokenize s = .ok l)
    {e : ParseError} (h : SchemaReader.start.readAll l.stop l.tokens = .error e) :
    e.Exact SchemaSentence OpensColumnType l := by
  have hfirst : SchemaReader.start.Within := trivial
  have hreached (ts : Tokens) (r : SchemaReader)
      (hr : (SchemaReader.start.run ts).outcome = .ok r) : ColumnsReached ts r :=
    ColumnsReached.start.run ts hr
  exact exact_of_reading SchemaReader.runs (fun ts r hr => (hreached ts r hr).viable)
    (fun ts r hr hf => hf.opensColumnType (hreached ts r hr) (hfirst.run hr))
    (fun _ _ _ _ => SchemaReader.step_eq_error) (fun _ _ _ => SchemaReader.finish_eq_error) hl
    (readsSentences_schema l.stop) h

/-- Where a text is read as tokens but not as a type or as a schema, the error points at the first
place that fits no sentence. -/
theorem syntax_errors_exact {s : String} {l : TokenList} (hl : tokenize s = .ok l) :
    (∀ e, (readType s).outcome = .error e → e.Exact TypeSentence OpensType l) ∧
    (∀ e, (readSchema s).outcome = .error e → e.Exact SchemaSentence OpensColumnType l) := by
  constructor
  · intro e h
    rw [readType_outcome, hl] at h
    exact TypeReader.exact_of_readAll hl h
  · intro e h
    rw [readSchema_outcome, hl] at h
    exact SchemaReader.exact_of_readAll hl h

/-- The text `A ARRAY<` breaks off, and in `A INT B INT` no sentence has the second name. -/
theorem syntax_errors_exact_columns :
    (readSchema "A ARRAY<").outcome = .error (.unexpectedEnd .type) ∧
    BreaksOff SchemaSentence ⟨[⟨.ident "A", 0⟩, ⟨.ident "ARRAY", 2⟩, ⟨.lt, 7⟩], 8⟩ ∧
    (readSchema "A INT B INT").outcome = .error (.unexpectedToken .columnEnd (.ident "B") 6) ∧
    BreaksAt SchemaSentence ⟨[⟨.ident "A", 0⟩, ⟨.ident "INT", 2⟩, ⟨.ident "B", 6⟩,
      ⟨.ident "INT", 8⟩], 11⟩ (.ident "B") 6 := by
  have hname (w : String) (hw : Name.isIdentifier w) (n : Nat) : Lexes w.toList n [⟨.ident w, n⟩] :=
    .token (.ident hw) n
  have hopens : tokenize "A ARRAY<" =
      .ok ⟨[⟨.ident "A", 0⟩, ⟨.ident "ARRAY", 2⟩, ⟨.lt, 7⟩], 8⟩ :=
    Lexes.tokenize_eq ((hname "A" (by decide) 0).append (by decide)
      (.blank ((hname "ARRAY" (by decide) 2).append (by decide) (.token .lt 7))))
  have hmore : tokenize "A INT B INT" = .ok ⟨[⟨.ident "A", 0⟩, ⟨.ident "INT", 2⟩,
      ⟨.ident "B", 6⟩, ⟨.ident "INT", 8⟩], 11⟩ :=
    Lexes.tokenize_eq ((hname "A" (by decide) 0).append (by decide)
      (.blank ((hname "INT" (by decide) 2).append (by decide)
        (.blank ((hname "B" (by decide) 6).append (by decide)
          (.blank (hname "INT" (by decide) 8)))))))
  have hend : (readSchema "A ARRAY<").outcome = .error (.unexpectedEnd .type) := by
    rw [readSchema_outcome, hopens]
    rfl
  have hfound : (readSchema "A INT B INT").outcome =
      .error (.unexpectedToken .columnEnd (.ident "B") 6) := by
    rw [readSchema_outcome, hmore]
    rfl
  exact ⟨hend, (syntax_errors_exact hopens).2 _ hend, hfound,
    (syntax_errors_exact hmore).2 _ hfound⟩

end SqlSchema.Syntax
