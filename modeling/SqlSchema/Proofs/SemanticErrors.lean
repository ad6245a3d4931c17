import SqlSchema.Proofs.ColumnReading
import SqlSchema.Proofs.FirstFlaws
import SqlSchema.Proofs.Pieces

/-!
# What is wrong with a sentence

A sentence of the grammar whose types are not nested too deep is refused exactly if it has a flaw,
and the error tells about the first one (`semantic_errors_exact`). The derivation of the sentence
shows that it breaks with a flaw wherever reading it fails (`Derives.breaksWith_run`,
`DerivesSchema.breaksWith_run`).
-/

namespace SqlSchema.Syntax

open Log

/-! ## Faults within the levels that there may be -/

mutual

/-- A fault of a type that is not nested too deep lies in what cannot be built. -/
theorem Tree.exists_invalid_of_resolve {depth : Nat} {e : ParseError} (x : Tree)
    (hn : depth + x.nesting ≤ nestingLimit) (h : x.resolve depth = .error e) :
    ∃ c o, e = .invalid c o := by
  have hpos := x.one_le_nesting
  rw [Tree.resolve.eq_def, if_pos (by omega)] at h
  cases x with
  | simple o t => cases h
  | decimal o p s =>
    obtain ⟨c, -, rfl⟩ := mapError_eq_error_iff.1 (map_eq_error_iff.1 h)
    exact ⟨c, o, rfl⟩
  | array o x =>
    rw [Tree.nesting] at hn
    exact x.exists_invalid_of_resolve (by omega) (map_eq_error_iff.1 h)
  | map o k v =>
    rw [Tree.nesting] at hn
    rcases bind_eq_error_iff.1 h with h | ⟨a, -, h⟩
    · exact k.exists_invalid_of_resolve (by omega) h
    · rcases bind_eq_error_iff.1 h with h | ⟨b, -, h⟩
      · exact v.exists_invalid_of_resolve (by omega) h
      · cases h
  | struct o fs =>
    rw [Tree.nesting] at hn
    exact exists_invalid_of_resolveFields fs (by omega) (map_eq_error_iff.1 h)

theorem exists_invalid_of_resolveFields {depth : Nat} {l : FieldList} {e : ParseError}
    (fs : List FieldTree) (hn : depth + fieldTreesNesting fs ≤ nestingLimit)
    (h : resolveFields depth l fs = .error e) : ∃ c o, e = .invalid c o := by
  cases fs with
  | nil => cases h
  | cons f fs =>
    obtain ⟨name, o, x⟩ := f
    rw [fieldTreesNesting] at hn
    rw [resolveFields] at h
    rcases bind_eq_error_iff.1 h with h | ⟨t, -, h⟩
    · exact x.exists_invalid_of_resolve (by omega) h
    · rcases bind_eq_error_iff.1 h with h | ⟨l', -, h⟩
      · obtain ⟨c, -, rfl⟩ := mapError_eq_error_iff.1 h
        exact ⟨c, o, rfl⟩
      · exact exists_invalid_of_resolveFields fs (by omega) h

end

theorem exists_invalid_of_resolveColumns {s : Schema} {e : ParseError} {cs : List ColumnTree}
    (hn : ∀ c ∈ cs, c.type.nesting ≤ nestingLimit) (h : resolveColumns s cs = .error e) :
    ∃ c o, e = .invalid c o := by
  induction cs generalizing s with
  | nil => cases h
  | cons c cs ih =>
    obtain ⟨name, x, role⟩ := c
    rw [List.forall_mem_cons] at hn
    rw [resolveColumns] at h
    rcases bind_eq_error_iff.1 h with h | ⟨t, -, h⟩
    · exact x.exists_invalid_of_resolve (by simpa using hn.1) h
    · exact ih hn.2 h

/-! ## Types -/

namespace TypeReader

theorem stepsThrough_run : StepsThrough fun p ts => (run p ts).outcome := by
  intro p k ts _
  simp only [run, Logged.outcome_bind]

theorem step_start_ne_ok {outer : List Frame} {k : Token} {o : Nat} {q : TypeReader}
    (hk : k = .lparen ∨ k = .lt) : ((start outer).step k o).outcome ≠ .ok q := by
  intro hs
  simp only [step] at hs
  split at hs
  · rcases hk with rfl | rfl <;> cases hs
  · cases hs

theorem eq_start_of_step {p p' q : TypeReader} {w : String} {k : Token} {o o₁ : Nat}
    (hk : k = .lparen ∨ k = .lt) (hs : (p.step (.ident w) o).outcome = .ok p')
    (hs' : (p'.step k o₁).outcome = .ok q) : ∃ outer, p = .start outer := by
  cases p with
  | start outer => exact ⟨outer, rfl⟩
  | firstField outer =>
    obtain rfl := Except.ok.inj hs
    exact absurd hs' (step_start_ne_ok hk)
  | nextField l outer =>
    obtain rfl := Except.ok.inj hs
    exact absurd hs' (step_start_ne_ok hk)
  | decimal o part outer => cases part <;> cases hs
  | _ => cases hs

theorem startsTypes : StartsTypes step run := by
  intro p p' q w k o o₁ hk hs hs'
  obtain ⟨outer, rfl⟩ := eq_start_of_step hk hs hs'
  exact ⟨id, outer, rfl, stepsThrough_run⟩

end TypeReader

/-- A type that is not nested too deep breaks with a flaw if it cannot be read. -/
theorem Derives.breaksWith_run {ts : Tokens} {x : Tree} {e : ParseError} (hx : Derives ts x)
    (hn : x.nesting ≤ nestingLimit) (he : ((TypeReader.start []).run ts).outcome = .error e) :
    BreaksWith (fun p us => (TypeReader.run p us).outcome) [] (.start []) ts e := by
  have hrun := hx.read_eq TypeReader.stepsThrough_run [] []
  rw [List.append_nil, he] at hrun
  rcases bind_eq_error_iff.1 hrun.symm with hr | ⟨t, -, hr⟩
  · obtain ⟨c, o, rfl⟩ := x.exists_invalid_of_resolve (by simpa using hn) hr
    exact hx.breaksWith TypeReader.stepsThrough_run [] hr
  · cases hr

/-! ## Schemas -/

namespace SchemaReader

theorem stepsThrough_run_ofType (earlier : Schema) (name : String) :
    StepsThrough fun p ts => ((ofType earlier name p).run ts).outcome := by
  intro p k ts hp
  simp only [ofType_of_ne_done hp, run, step, Logged.outcome_bind, bind_assoc]
  rfl

theorem not_step_ofType_start {earlier : Schema} {name : String} {k : Token} {o : Nat}
    {r : SchemaReader} (hk : k = .lparen ∨ k = .lt) :
    ((columnType earlier name (.start [])).step k o).outcome ≠ .ok r := by
  intro hs
  rw [step, Logged.outcome_bind] at hs
  obtain ⟨p, hp, -⟩ := bind_eq_ok_iff.1 hs
  exact TypeReader.step_start_ne_ok hk hp

theorem exists_step_of_ofType {earlier : Schema} {name : String} {p : TypeReader} {k : Token}
    {o : Nat} {r : SchemaReader} (hk : k = .lparen ∨ k = .lt)
    (hs : ((ofType earlier name p).step k o).outcome = .ok r) :
    ∃ q, (p.step k o).outcome = .ok q := by
  cases p with
  | done t => rcases hk with rfl | rfl <;> cases hs
  | _ =>
    rw [ofType, step, Logged.outcome_bind] at hs
    · obtain ⟨q, hq, -⟩ := bind_eq_ok_iff.1 hs
      exact ⟨q, hq⟩
    · simp

theorem startsTypes : StartsTypes step run := by
  intro r r' q w k o o₁ hk hs hs'
  cases r with
  | start =>
    obtain rfl := Except.ok.inj hs
    exact absurd hs' (not_step_ofType_start hk)
  | nextColumn earlier =>
    obtain rfl := Except.ok.inj hs
    exact absurd hs' (not_step_ofType_start hk)
  | columnType earlier name p =>
    rw [step, Logged.outcome_bind] at hs
    obtain ⟨p', hp, hs⟩ := bind_eq_ok_iff.1 hs
    obtain rfl := Except.ok.inj hs
    obtain ⟨q', hq'⟩ := exists_step_of_ofType hk hs'
    obtain ⟨outer, rfl⟩ := TypeReader.eq_start_of_step hk hp hq'
    exact ⟨ofType earlier name, outer, rfl, stepsThrough_run_ofType earlier name⟩
  | roleOrEnd earlier f =>
    simp only [step] at hs
    split at hs
    · obtain rfl := Except.ok.inj hs
      rcases hk with rfl | rfl <;> cases hs'
    · cases hs
  | columnEnd s => cases hs

end SchemaReader

open SchemaReader

theorem ColumnStart.readsTo_name {earlier : Schema} {r : SchemaReader}
    (hr : ColumnStart earlier r) {k : Token} {name : String} (hk : k.name? = some name) (o : Nat) :
    ReadsTo (fun p us => (SchemaReader.run p us).outcome) r [⟨k, o⟩]
      (columnType earlier name (.start [])) := by
  refine runs.readsTo_iff.2 ?_
  cases hr <;> simp only [run, step, beginColumn, hk] <;> rfl

theorem readsTo_nextColumn {ms : Tokens} {role : Role} (hm : DerivesRole ms role)
    (earlier : Schema) (f : Field) (o : Nat) :
    ReadsTo (fun p us => (SchemaReader.run p us).outcome) (roleOrEnd earlier f)
      (ms ++ [⟨.comma, o⟩]) (nextColumn (earlier.add role f)) := by
  refine runs.readsTo_iff.2 ?_
  cases hm with
  | value => rfl
  | key hw =>
    rw [List.cons_append]
    simp only [run, step, isKeyMark_iff.2 hw]
    rfl

theorem Derives.breaksWith_column {ts : Tokens} {x : Tree} {c : TypeError} {i : Nat}
    (hx : Derives ts x) (he : x.resolve 0 = .error (.invalid c i)) (earlier : Schema)
    (name : String) : BreaksWith (fun p us => (SchemaReader.run p us).outcome) []
      (columnType earlier name (.start [])) ts (.invalid c i) := by
  obtain ⟨init, k, after, flaw, q, hts, hf, hr, hread⟩ :=
    hx.breaksWith (stepsThrough_run_ofType earlier name) [] he
  exact ⟨init, k, after, flaw, ofType earlier name q, hts, hf, hr, hread⟩

/-- Columns with a fault other than the nesting of a type break with a flaw. -/
theorem DerivesColumns.breaksWith {ts : Tokens} {cs : List ColumnTree} {c : TypeError} {i : Nat}
    (hc : DerivesColumns ts cs) {earlier : Schema} {r : SchemaReader}
    (hr : ColumnStart earlier r) (he : resolveColumns earlier cs = .error (.invalid c i)) :
    BreaksWith (fun p us => (SchemaReader.run p us).outcome) [] r ts (.invalid c i) := by
  induction hc generalizing earlier r with
  | @one k name o ts ms x role hk hx hm =>
    rw [resolveColumns] at he
    rcases bind_eq_error_iff.1 he with he | ⟨t, -, he⟩
    · exact .prepend (hr.readsTo_name hk o) ((hx.breaksWith_column he earlier name).append ms)
    · cases he
  | @cons k name o o₁ ts ms us x role cs hk hx hm hc ih =>
    rw [resolveColumns] at he
    rcases bind_eq_error_iff.1 he with he | ⟨t, ht, he⟩
    · exact .prepend (hr.readsTo_name hk o) ((hx.breaksWith_column he earlier name).append _)
    · have htype := hx.readsTo (stepsThrough_run_ofType earlier name) [] ht rfl
      have hrest : BreaksWith _ [] _ _ _ :=
        .prepend (readsTo_nextColumn hm earlier ⟨name, t⟩ o₁) (ih (.next _) he)
      rw [List.append_assoc] at hrest
      exact .prepend (hr.readsTo_name hk o) (.prepend htype hrest)

/-- A column list whose types are not nested too deep breaks with a flaw if it cannot be read. -/
theorem DerivesSchema.breaksWith_run {ts : Tokens} {cs : List ColumnTree} {e : ParseError}
    (hc : DerivesSchema ts cs) (hn : ∀ c ∈ cs, c.type.nesting ≤ nestingLimit)
    (he : (SchemaReader.start.run ts).outcome = .error e) :
    BreaksWith (fun p us => (SchemaReader.run p us).outcome) [] .start ts e := by
  have hread : SchemaReader.start.readAll 0 ts = .error e := by
    rw [SchemaReader.readAll, Logged.outcome_bind, he]
    rfl
  rw [hc.readAll_eq] at hread
  obtain ⟨c, o, rfl⟩ := exists_invalid_of_resolveColumns hn hread
  cases hc with
  | empty => cases hread
  | columns hc => exact hc.breaksWith .first hread

/-! ## Errors of sentences -/

/-- Reading the tokens fails exactly if they have a flaw, and then the error tells about the first
one. -/
def FailsWithFirstFlaw {α : Type} (ts : Tokens) (read : Except ParseError α) : Prop :=
  ((∃ e, read = .error e) ↔ Flawed ts) ∧
    ∀ e, read = .error e ↔ ∃ flaw, FirstFlaw ts flaw ∧ flaw.Reports e

theorem FailsWithFirstFlaw.congr {α β : Type} {ts : Tokens} {r : Except ParseError α}
    {r' : Except ParseError β} (h : FailsWithFirstFlaw ts r)
    (heq : ∀ e, r' = .error e ↔ r = .error e) : FailsWithFirstFlaw ts r' := by
  refine ⟨(exists_congr heq).trans h.1, fun e => (heq e).trans (h.2 e)⟩

theorem Derives.failsWithFirstFlaw {ts : Tokens} {x : Tree} (hx : Derives ts x)
    (ho : ts.Pairwise fun j k => j.offset < k.offset) (hn : x.nesting ≤ nestingLimit) :
    FailsWithFirstFlaw ts (x.resolve 0) := by
  have hrun := error_iff_of_breaksWith TypeReader.runs TypeReader.startsTypes ho
    fun e => hx.breaksWith_run hn
  refine FailsWithFirstFlaw.congr hrun fun e => ?_
  have heq := hx.read_eq TypeReader.stepsThrough_run [] []
  rw [List.append_nil] at heq
  rw [heq, bind_eq_error_iff]
  constructor
  · exact Or.inl
  · rintro (h | ⟨t, -, h⟩)
    · exact h
    · cases h

/-- The grammar's own view of a flaw: the tree has no type. -/
theorem Derives.flawed_iff {ts : Tokens} {x : Tree} (hx : Derives ts x)
    (ho : ts.Pairwise fun j k => j.offset < k.offset) (hn : x.nesting ≤ nestingLimit) :
    Flawed ts ↔ x.type? = none := by
  rw [← (hx.failsWithFirstFlaw ho hn).1]
  have hok (t : DataType) : x.resolve 0 = .ok t ↔ x.type? = some t := by
    simp [x.resolve_eq_ok_iff, hn]
  cases hr : x.resolve 0 with
  | ok t => simp [(hok t).1 hr]
  | error e =>
    cases ht : x.type? with
    | none => simp
    | some t =>
      rw [(hok t).2 ht] at hr
      cases hr

theorem DerivesSchema.failsWithFirstFlaw {ts : Tokens} {cs : List ColumnTree}
    (hc : DerivesSchema ts cs) (ho : ts.Pairwise fun j k => j.offset < k.offset)
    (hn : ∀ c ∈ cs, c.type.nesting ≤ nestingLimit) :
    FailsWithFirstFlaw ts (resolveColumns {} cs) := by
  have hrun := error_iff_of_breaksWith SchemaReader.runs SchemaReader.startsTypes ho
    fun e => hc.breaksWith_run hn
  refine FailsWithFirstFlaw.congr hrun fun e => ?_
  constructor
  · intro he
    obtain ⟨c, o, rfl⟩ := exists_invalid_of_resolveColumns hn he
    rw [← hc.readAll_eq 0, SchemaReader.readAll, Logged.outcome_bind] at he
    rcases bind_eq_error_iff.1 he with h | ⟨r, -, h⟩
    · exact h
    · cases SchemaReader.finish_eq_error h
  · intro he
    rw [← hc.readAll_eq 0, SchemaReader.readAll, Logged.outcome_bind, he]
    rfl

/-- A text whose tokens are a type or columns of the grammar, not nested too deep, is refused
exactly if a decimal in it has impossible bounds or a struct in it repeats the name of a field. The
error is about the first of these flaws, whose last token comes before that of any other or which
is inside the others that end there. Columns may have any names. -/
theorem semantic_errors_exact {s : String} {l : TokenList} (hl : tokenize s = .ok l) :
    (∀ x, Derives l.tokens x → x.nesting ≤ nestingLimit →
      FailsWithFirstFlaw l.tokens (readType s).outcome) ∧
    (∀ cs, DerivesSchema l.tokens cs → (∀ c ∈ cs, c.type.nesting ≤ nestingLimit) →
      FailsWithFirstFlaw l.tokens (readSchema s).outcome ∧
      (¬ Flawed l.tokens → ∃ fs, columnTypes? cs = some fs ∧
        (readSchema s).outcome = .ok (.ofRoles fs))) := by
  obtain ⟨ho, -⟩ := pairwise_of_tokenize hl
  constructor
  · intro x hx hn
    have hread : (readType s).outcome = x.resolve 0 := by
      rw [readType_outcome, hl, ← hx.readAll_eq l.stop]
      rfl
    rw [hread]
    exact hx.failsWithFirstFlaw ho hn
  · intro cs hc hn
    have hread : (readSchema s).outcome = resolveColumns {} cs := by
      rw [readSchema_outcome, hl, ← hc.readAll_eq l.stop]
      rfl
    have hfails := hc.failsWithFirstFlaw ho hn
    rw [hread]
    refine ⟨hfails, fun hflawed => ?_⟩
    cases hr : resolveColumns {} cs with
    | error e => exact absurd (hfails.1.1 ⟨e, hr⟩) hflawed
    | ok schema =>
      obtain ⟨fs, hfs, -, rfl⟩ := resolveColumns_eq_ok_iff.1 hr
      exact ⟨fs, hfs, by rw [Schema.addAll_empty]⟩

/-- In `STRUCT<b INT, b DECIMAL(0, 1)>` two flaws end with the decimal and the inner one is
reported. Two columns of one name are no flaw. -/
theorem semantic_errors_exact_tie :
    (readType "STRUCT<b INT, b DECIMAL(0, 1)>").outcome =
      .error (.invalid (.invalidDecimal 0 1) 16) ∧
    (∃ flaw, FirstFlaw [⟨.ident "STRUCT", 0⟩, ⟨.lt, 6⟩, ⟨.ident "b", 7⟩, ⟨.ident "INT", 9⟩,
        ⟨.comma, 12⟩, ⟨.ident "b", 14⟩, ⟨.ident "DECIMAL", 16⟩, ⟨.lparen, 23⟩, ⟨.number 0, 24⟩,
        ⟨.comma, 25⟩, ⟨.number 1, 27⟩, ⟨.rparen, 28⟩, ⟨.gt, 29⟩] flaw ∧
      flaw.Reports (.invalid (.invalidDecimal 0 1) 16)) ∧
    (readSchema "A INT, A INT KEY").outcome =
      .ok ⟨[⟨"A", .integer⟩], [⟨"A", .integer⟩]⟩ ∧
    ¬ Flawed [⟨.ident "A", 0⟩, ⟨.ident "INT", 2⟩, ⟨.comma, 5⟩, ⟨.ident "A", 7⟩,
      ⟨.ident "INT", 9⟩, ⟨.ident "KEY", 13⟩] := by
  have htype : tokenize "STRUCT<b INT, b DECIMAL(0, 1)>" = .ok ⟨[⟨.ident "STRUCT", 0⟩, ⟨.lt, 6⟩,
      ⟨.ident "b", 7⟩, ⟨.ident "INT", 9⟩, ⟨.comma, 12⟩, ⟨.ident "b", 14⟩, ⟨.ident "DECIMAL", 16⟩,
      ⟨.lparen, 23⟩, ⟨.number 0, 24⟩, ⟨.comma, 25⟩, ⟨.number 1, 27⟩, ⟨.rparen, 28⟩, ⟨.gt, 29⟩],
      30⟩ := tokenize_eq_of_tokensBelow 14 (by decide +kernel)
  have hschema : tokenize "A INT, A INT KEY" = .ok ⟨[⟨.ident "A", 0⟩, ⟨.ident "INT", 2⟩,
      ⟨.comma, 5⟩, ⟨.ident "A", 7⟩, ⟨.ident "INT", 9⟩, ⟨.ident "KEY", 13⟩], 16⟩ :=
    tokenize_eq_of_tokensBelow 7 (by decide +kernel)
  have hrefused : (readType "STRUCT<b INT, b DECIMAL(0, 1)>").outcome =
      .error (.invalid (.invalidDecimal 0 1) 16) := by
    rw [readType_outcome, htype]
    rfl
  have hread : (readSchema "A INT, A INT KEY").outcome =
      .ok ⟨[⟨"A", .integer⟩], [⟨"A", .integer⟩]⟩ := by
    rw [readSchema_outcome, hschema]
    rfl
  have hint (n : Nat) : Derives [⟨.ident "INT", n⟩] (.simple n .integer) :=
    .simple TypeWord.int.isKeyword
  have hfirst := (semantic_errors_exact htype).1 _
    (.struct TypeWord.struct.isKeyword (.cons rfl (hint 9) (.one rfl
      (.decimal TypeWord.decimal.isKeyword)))) (by decide)
  have hnone := (semantic_errors_exact hschema).2 _
    (.columns (.cons rfl (hint 2) .value (.one rfl (hint 9) (.key rfl))))
    (by simp [Tree.nesting, nestingLimit])
  refine ⟨hrefused, (hfirst.2 _).1 hrefused, hread, ?_⟩
  intro hflawed
  obtain ⟨e, he⟩ := hnone.1.1.2 hflawed
  rw [hread] at he
  cases he

end SqlSchema.Syntax
