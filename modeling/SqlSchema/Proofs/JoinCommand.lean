import SqlSchema.Proofs.SchemaRoundTrip
import SqlSchema.Proofs.Semicolons

/-!
# The join command on written schemas

The sources of a join are cut at the first semicolon of the line, also if it stands between
backticks. So the command joins the two schemas written in it exactly if no name of the left one has
a semicolon (`read_join_render`). Otherwise the left source breaks off inside of the first name with
one.
-/

namespace SqlSchema

open Log Syntax Text

/-! ## Names -/

mutual

/-- The names of the fields in a type, at any depth. -/
def DataType.names : DataType → List String
  | .array item => item.names
  | .map key value => key.names ++ value.names
  | .struct fields => fieldNames fields
  | _ => []

def Field.names : Field → List String
  | ⟨name, type⟩ => name :: type.names

def fieldNames : List Field → List String
  | [] => []
  | f :: fs => f.names ++ fieldNames fs

end

/-- The names of the columns and of the fields in their types. -/
def Schema.names (s : Schema) : List String :=
  s.columns.flatMap fun c => c.field.names

def HasSemicolon (s : String) : Prop :=
  ';' ∈ s.toList

instance (s : String) : Decidable (HasSemicolon s) :=
  inferInstanceAs (Decidable (';' ∈ s.toList))

theorem hasSemicolon_append {s t : String} :
    HasSemicolon (s ++ t) ↔ HasSemicolon s ∨ HasSemicolon t := by
  simp [HasSemicolon]

theorem hasSemicolon_escape {reserved : ReservedWords} {name : String} :
    HasSemicolon (reserved.escape name) ↔ HasSemicolon name := by
  unfold ReservedWords.escape
  split
  · rfl
  · rw [HasSemicolon, Name.quote, String.toList_ofList, Name.mem_quoteChars (by decide)]
    rfl

theorem hasSemicolon_intercalate :
    (ss : List String) → (HasSemicolon (", ".intercalate ss) ↔ ∃ s ∈ ss, HasSemicolon s)
  | [] => by simp [HasSemicolon]
  | [s] => by simp
  | s :: t :: ts => by
    have hcomma : ¬ HasSemicolon ", " := by decide
    have hrest := hasSemicolon_intercalate (t :: ts)
    rw [String.intercalate_cons_cons, hasSemicolon_append, hasSemicolon_append, hrest]
    simp [hcomma]

theorem not_hasSemicolon_toString (n : UInt32) : ¬ HasSemicolon (toString n.toNat) := by
  intro h
  have hn := spells_toString n
  unfold HasSemicolon at h
  generalize (toString n.toNat).toList = l at h hn
  cases hn with
  | number hne hd => exact absurd (hd _ h) (by decide)

mutual

theorem DataType.hasSemicolon_render (reserved : ReservedWords) :
    (t : DataType) → (HasSemicolon (t.render reserved) ↔ ∃ name ∈ t.names, HasSemicolon name)
  | .boolean | .integer | .bigint | .double | .string => by
    simp +decide only [DataType.render]
  | .decimal d => by
    simp +decide only [DataType.render, DecimalType.text, DataType.names, hasSemicolon_append,
      not_hasSemicolon_toString]
  | .array item => by
    have hitem := item.hasSemicolon_render reserved
    simp +decide only [DataType.render, DataType.names, hasSemicolon_append, hitem, false_or,
      or_false]
  | .map key value => by
    have hkey := key.hasSemicolon_render reserved
    have hvalue := value.hasSemicolon_render reserved
    simp +decide only [DataType.render, DataType.names, hasSemicolon_append, hkey, hvalue, false_or,
      or_false, List.mem_append, or_and_right, exists_or]
  | .struct [] => by
    simp +decide only [DataType.render]
  | .struct (f :: fs) => by
    have hfields := hasSemicolon_renderFields reserved (f :: fs)
    simp +decide only [DataType.render, DataType.names, hasSemicolon_append, false_or, or_false,
      hasSemicolon_intercalate]
    exact hfields

theorem Field.hasSemicolon_render (reserved : ReservedWords) :
    (f : Field) → (HasSemicolon (f.render reserved) ↔ ∃ name ∈ f.names, HasSemicolon name)
  | ⟨name, type⟩ => by
    have htype := type.hasSemicolon_render reserved
    simp +decide only [Field.render, Field.names, hasSemicolon_append, hasSemicolon_escape, htype,
      or_false, List.mem_cons, or_and_right, exists_or, exists_eq_left]

theorem hasSemicolon_renderFields (reserved : ReservedWords) :
    (fs : List Field) → ((∃ s ∈ renderFields reserved fs, HasSemicolon s) ↔
      ∃ name ∈ fieldNames fs, HasSemicolon name)
  | [] => by simp only [renderFields, fieldNames]
  | f :: fs => by
    have hf := f.hasSemicolon_render reserved
    have hfs := hasSemicolon_renderFields reserved fs
    simp only [renderFields, fieldNames, List.mem_cons, List.mem_append, or_and_right, exists_or,
      exists_eq_left, hf, hfs]

end

theorem Schema.hasSemicolon_render (reserved : ReservedWords) (s : Schema) :
    HasSemicolon (s.render reserved) ↔ ∃ name ∈ s.names, HasSemicolon name := by
  have hcolumn (c : Column) :
      HasSemicolon (c.render reserved) ↔ ∃ name ∈ c.field.names, HasSemicolon name := by
    have hmark : ¬ HasSemicolon (if c.isKey then " KEY" else "") := by
      cases c.isKey <;> decide
    rw [Column.render, hasSemicolon_append, c.field.hasSemicolon_render reserved]
    simp [hmark]
  rw [Schema.render, hasSemicolon_intercalate, Schema.names]
  simp only [List.mem_map, exists_exists_and_eq_and, hcolumn, List.mem_flatMap]
  constructor
  · rintro ⟨c, hc, name, hname, h⟩
    exact ⟨name, ⟨c, hc, hname⟩, h⟩
  · rintro ⟨name, ⟨c, hc, hname⟩, h⟩
    exact ⟨c, hc, name, hname, h⟩

/-! ## The ends of a written schema -/

/-- The text ends with a character that is no blank. -/
def EndsVisibly (s : String) : Prop :=
  s.toList.getLast?.any fun c => !isBlank c

instance (s : String) : Decidable (EndsVisibly s) :=
  inferInstanceAs (Decidable (_ = true))

theorem EndsVisibly.append {t : String} (h : EndsVisibly t) (s : String) :
    EndsVisibly (s ++ t) := by
  unfold EndsVisibly at *
  rw [String.toList_append, List.getLast?_append]
  cases ht : t.toList.getLast? with
  | none => simp [ht] at h
  | some c => simpa [ht] using h

theorem DataType.endsVisibly_render (reserved : ReservedWords) (t : DataType) :
    EndsVisibly (t.render reserved) := by
  have hround : EndsVisibly ")" := by decide
  have hangle : EndsVisibly ">" := by decide
  cases t with
  | decimal d => exact hround.append _
  | array item => exact hangle.append _
  | map key value => exact hangle.append _
  | struct fields =>
    cases fields with
    | nil => exact hangle.append "STRUCT< "
    | cons f fs => exact hangle.append _
  | boolean | integer | bigint | double | string =>
    rw [DataType.render]
    decide

theorem Column.endsVisibly_render (reserved : ReservedWords) (c : Column) :
    EndsVisibly (c.render reserved) := by
  obtain ⟨⟨name, type⟩, role, index⟩ := c
  cases role with
  | key =>
    have hkey : EndsVisibly " KEY" := by decide
    exact hkey.append _
  | value =>
    have hvalue : Column.render reserved ⟨⟨name, type⟩, .value, index⟩ =
        reserved.escape name ++ " " ++ type.render reserved := by
      simp [Column.render, Field.render, Column.isKey]
    rw [hvalue]
    exact (type.endsVisibly_render reserved).append _

/-- The text of a column starts with its name and ends with its type or the mark of a key. -/
theorem Column.trimmed_render (reserved : ReservedWords) (c : Column) :
    Trimmed (c.render reserved).toList ∧ (c.render reserved).toList ≠ [] := by
  have hend := c.endsVisibly_render reserved
  obtain ⟨⟨name, type⟩, role, index⟩ := c
  obtain ⟨k, hk, -⟩ := reserved.exists_spells_escape name
  obtain ⟨d, ds, hname, hd⟩ := hk.exists_cons
  obtain ⟨rest, hrest⟩ : ∃ rest, (Column.render reserved ⟨⟨name, type⟩, role, index⟩).toList =
      d :: rest := by
    simp [Column.render, Field.render, hname]
  unfold EndsVisibly at hend
  rw [hrest] at hend ⊢
  refine ⟨⟨by simpa using hd, ?_⟩, List.cons_ne_nil d rest⟩
  intro c hc
  rw [hc] at hend
  simpa using hend

theorem trimmed_intercalate : {ss : List String} →
    (∀ s ∈ ss, Trimmed s.toList ∧ s.toList ≠ []) → Trimmed (", ".intercalate ss).toList ∧
      (ss ≠ [] → (", ".intercalate ss).toList ≠ [])
  | [], _ => by simp [Trimmed]
  | [s], h => by simpa using h
  | s :: t :: ts, h => by
    obtain ⟨hs, hrest⟩ := List.forall_mem_cons.1 h
    obtain ⟨hts, hne⟩ := trimmed_intercalate hrest
    rw [String.intercalate_cons_cons, String.toList_append, String.toList_append]
    exact ⟨hs.1.append hts hs.2 (hne (by simp)) _, by simp [hs.2]⟩

theorem Schema.trimmed_render (reserved : ReservedWords) (s : Schema) :
    Trimmed (s.render reserved).toList := by
  refine (trimmed_intercalate ?_).1
  intro text htext
  obtain ⟨c, -, rfl⟩ := List.mem_map.1 htext
  exact c.trimmed_render reserved

/-! ## Joins of written schemas -/

/-- The types of the columns are well formed and nested within the limit. -/
def Schema.Readable (s : Schema) : Prop :=
  ∀ c ∈ s.columns, c.type.WellFormed ∧ c.type.nesting ≤ nestingLimit

/-- A token of the text is a quoted name that starts at the byte offset `n` and has the first
semicolon of the text. -/
def FirstSemicolonIn (s : String) (n : Nat) : Prop :=
  ∃ list name before after, tokenize s = .ok list ∧ ⟨.quoted name, n⟩ ∈ list.tokens ∧
    HasSemicolon name ∧ s.toList = before ++ (Name.quoteChars name.toList ++ after) ∧
    ';' ∉ before ∧ n = byteLength before

theorem Schema.Readable.outcome_readSchema {s : Schema} (h : s.Readable)
    (reserved : ReservedWords) : (readSchema (s.render reserved)).outcome = .ok s := by
  rw [Schema.render, readSchema_columns_eq, resolveColumns_columnTrees reserved 0 {}
    (fun c hc => (h c hc).1) (fun c hc => (h c hc).2), Schema.addAll_empty, s.ofRoles_columns]

namespace Shell

/-- Where no semicolon is in the left text, the sources are the two texts. -/
theorem outcome_read_join_render {o : ReservedWords} {l : Schema}
    (h : ¬ HasSemicolon (l.render o)) (r : Schema) :
    (Command.read ("join " ++ l.render o ++ " ; " ++ r.render o)).outcome =
      .ok (.join (l.render o) (r.render o)) := by
  have hx : ';' ∉ (l.render o).toList ++ [' '] := by simpa [HasSemicolon] using h
  have hblank : ∀ c ∈ [' '], isBlank c := List.forall_mem_singleton.2 (by decide)
  have hline : "join " ++ l.render o ++ " ; " ++ r.render o = String.ofList ("join".toList ++
      ' ' :: ((l.render o).toList ++ [' '] ++ ';' :: ([' '] ++ (r.render o).toList))) := by
    rw [← String.toList_inj]
    simp
  rw [hline, Command.outcome_read_join hx, trimChars_append_blanks hblank,
    trimChars_blanks_append hblank, (l.trimmed_render o).trimChars_eq,
    (r.trimmed_render o).trimChars_eq, String.ofList_toList, String.ofList_toList]

/-- A left source that is cut at its first semicolon breaks off inside of a quoted name. -/
theorem exists_readSchema_error {text : String} {list : TokenList}
    (hlist : tokenize text = .ok list) (htrimmed : Trimmed text.toList) {x y : List Char}
    (hx : ';' ∉ x) (htext : text.toList = x ++ ';' :: y) :
    ∃ n, FirstSemicolonIn text n ∧ (readSchema (String.ofList (trimChars x))).outcome =
      .error (.lexical (.unterminatedQuote n)) := by
  obtain ⟨before, name, after, hsplit, htoken, hbefore, hname, hcut⟩ :=
    exists_unterminated hlist htext hx
  refine ⟨byteLength before,
    ⟨list, name, before, after, hlist, htoken, hname, hsplit, hbefore, rfl⟩, ?_⟩
  have hstart : dropBlanks x = x := by
    cases x with
    | nil => rfl
    | cons c x =>
      rw [htext] at htrimmed
      simp [dropBlanks, htrimmed.1 c rfl]
  rw [trimChars_eq, hstart, readSchema_outcome, hcut]
  rfl

/-- Where a semicolon is in the left text, the left source is a part of it that cannot be read. -/
theorem exists_read_join_cut {o : ReservedWords} {l : Schema} (hl : l.Readable)
    (h : HasSemicolon (l.render o)) (r : Schema) : ∃ left right,
    (Command.read ("join " ++ l.render o ++ " ; " ++ r.render o)).outcome =
        .ok (.join left right) ∧
      ∃ n, FirstSemicolonIn (l.render o) n ∧
        (readSchema left).outcome = .error (.lexical (.unterminatedQuote n)) := by
  obtain ⟨x, y, htext, hx⟩ := List.eq_append_cons_of_mem h
  have hline : "join " ++ l.render o ++ " ; " ++ r.render o = String.ofList ("join".toList ++
      ' ' :: (x ++ ';' :: (y ++ ' ' :: ';' :: ' ' :: (r.render o).toList))) := by
    rw [← String.toList_inj]
    simp [htext]
  obtain ⟨list, hlist⟩ : ∃ list, tokenize (l.render o) = .ok list := by
    have hread := hl.outcome_readSchema o
    rw [readSchema_outcome] at hread
    obtain ⟨list, hlist, -⟩ := bind_eq_ok_iff.1 hread
    exact ⟨list, mapError_eq_ok_iff.1 hlist⟩
  rw [hline, Command.outcome_read_join hx]
  exact ⟨_, _, rfl, exists_readSchema_error hlist (l.trimmed_render o) hx htext⟩

theorem outcome_run_join {left right : String} {l r : Schema} (reserved : ReservedWords)
    (hl : (readSchema left).outcome = .ok l) (hr : (readSchema right).outcome = .ok r) :
    ((Command.join left right).run reserved).outcome =
      ((l.join r).outcome.mapError .join).map fun joined => .text (joined.render reserved) := by
  simp only [Command.run, Command.readSource, Logged.outcome_bind, Logged.outcome_mapError, hl, hr,
    Logged.outcome_pure]
  show (l.join r).outcome.mapError Error.join >>=
    (fun joined => Except.ok (Reply.text (joined.render reserved))) = _
  cases (l.join r).outcome <;> rfl

theorem outcome_run_join_error {left : String} {e : ParseError} (right : String)
    (reserved : ReservedWords) (h : (readSchema left).outcome = .error e) :
    ((Command.join left right).run reserved).outcome = .error (.parse e) := by
  simp only [Command.run, Command.readSource, Logged.outcome_bind, Logged.outcome_mapError, h]
  rfl

/-- The command that joins two written schemas answers the text of their join or the error of it, if
no name in the left schema has a semicolon. If one does, the left source breaks off inside of the
first such name. -/
theorem read_join_render (o₁ o₂ : ReservedWords) {l r : Schema} (hl : l.Readable)
    (hr : r.Readable) :
    ∃ command, (Command.read ("join " ++ l.render o₁ ++ " ; " ++ r.render o₁)).outcome =
        .ok command ∧
      ((∀ name ∈ l.names, ¬ HasSemicolon name) → (command.run o₂).outcome =
        ((l.join r).outcome.mapError .join).map fun joined => .text (joined.render o₂)) ∧
      ((∃ name ∈ l.names, HasSemicolon name) → ∃ n, FirstSemicolonIn (l.render o₁) n ∧
        (command.run o₂).outcome = .error (.parse (.lexical (.unterminatedQuote n)))) := by
  have hnames := l.hasSemicolon_render o₁
  by_cases hsemicolon : HasSemicolon (l.render o₁)
  · obtain ⟨left, right, hread, n, hfirst, hleft⟩ := exists_read_join_cut hl hsemicolon r
    refine ⟨_, hread, ?_, ?_⟩
    · intro h
      obtain ⟨name, hname, hhas⟩ := hnames.1 hsemicolon
      exact absurd hhas (h name hname)
    · intro _
      exact ⟨n, hfirst, outcome_run_join_error right o₂ hleft⟩
  · refine ⟨_, outcome_read_join_render hsemicolon r, ?_, ?_⟩
    · intro _
      exact outcome_run_join o₂ (hl.outcome_readSchema o₁) (hr.outcome_readSchema o₁)
    · intro h
      exact absurd (hnames.2 h) hsemicolon

/-- A semicolon in the name of the right key makes no difference, one in a field name on the left is
taken for the one between the sources. -/
theorem read_join_render_semicolons :
    let l : Schema := ⟨[⟨"K", .integer⟩], []⟩
    let l' : Schema := ⟨[⟨"K", .integer⟩], [⟨"V", .struct [⟨"a;b", .string⟩]⟩]⟩
    let r : Schema := ⟨[⟨";", .integer⟩], [⟨"KEY", .array .double⟩]⟩
    (∃ command, (Command.read ("join " ++ l.render .none ++ " ; " ++ r.render .none)).outcome =
        .ok command ∧
      (command.run .none).outcome = .ok (.text "K INTEGER KEY, KEY ARRAY<DOUBLE>")) ∧
    ∃ command, (Command.read ("join " ++ l'.render .none ++ " ; " ++ r.render .none)).outcome =
        .ok command ∧
      ∃ n, (command.run .none).outcome = .error (.parse (.lexical (.unterminatedQuote n))) := by
  intro l l' r
  have hl : l.Readable := by
    intro c hc
    obtain rfl := List.mem_singleton.1 hc
    exact ⟨trivial, by decide⟩
  have hl' : l'.Readable := by
    intro c hc
    have hfields : (DataType.struct [⟨"a;b", .string⟩]).WellFormed :=
      ⟨by decide, trivial, trivial⟩
    rcases List.mem_cons.1 hc with rfl | hc
    · exact ⟨trivial, by decide⟩
    · obtain rfl := List.mem_singleton.1 hc
      exact ⟨hfields, by decide⟩
  have hr : r.Readable := by
    intro c hc
    rcases List.mem_cons.1 hc with rfl | hc
    · exact ⟨trivial, by decide⟩
    · obtain rfl := List.mem_singleton.1 hc
      exact ⟨trivial, by decide⟩
  obtain ⟨command, hread, hrun, -⟩ := read_join_render .none .none hl hr
  obtain ⟨command', hread', -, hrun'⟩ := read_join_render .none .none hl' hr
  refine ⟨⟨command, hread, ?_⟩, command', hread', ?_⟩
  · rw [hrun (by decide)]
    rfl
  · obtain ⟨n, -, hn⟩ := hrun' (by decide)
    exact ⟨n, hn⟩

/-- The key of the left schema is named by a semicolon. The two schemas have a join, but the command
cuts the name. -/
theorem join_command_cuts_name :
    let l : Schema := ⟨[⟨";", .integer⟩], []⟩
    let r : Schema := ⟨[⟨"R", .integer⟩], []⟩
    l.Readable ∧ r.Readable ∧ (l.join r).outcome = .ok l ∧
    "join " ++ l.render .none ++ " ; " ++ r.render .none = "join `;` INTEGER KEY ; R INTEGER KEY" ∧
    (Command.read "join `;` INTEGER KEY ; R INTEGER KEY").outcome =
      .ok (.join "`" "` INTEGER KEY ; R INTEGER KEY") ∧
    ((Command.join "`" "` INTEGER KEY ; R INTEGER KEY").run .none).outcome =
      .error (.parse (.lexical (.unterminatedQuote 0))) := by
  intro l r
  have hread := Command.outcome_read_join (x := "\x60".toList) (by decide)
    "\x60 INTEGER KEY ; R INTEGER KEY".toList
  have hleft : (readSchema "\x60").outcome = .error (.lexical (.unterminatedQuote 0)) := by
    have hquote : tokenize "\x60" = .error (.unterminatedQuote 0) :=
      congrArg (Except.map _) (tokens_unterminated [] 0)
    rw [readSchema_outcome, hquote]
    rfl
  refine ⟨?_, ?_, rfl, by decide, hread, outcome_run_join_error _ .none hleft⟩
  all_goals
    intro c hc
    obtain rfl := List.mem_singleton.1 hc
    exact ⟨trivial, by decide⟩

end Shell

end SqlSchema
