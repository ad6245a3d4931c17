import SqlSchema.Proofs.Acceptance
import SqlSchema.Proofs.JoinCommand
import SqlSchema.Proofs.Joins
import SqlSchema.Proofs.RoundTrip

/-!
# Canonical forms

What the shell shows for a type, a column list or a join is a text that it shows again if the text
is given back to it (`shown_texts_are_canonical`). What has been read is well formed and within the
levels that there may be, and so is a join of what has been read, so the text is read as just that.
It has no blanks at its ends, so a command line does not change it.
-/

namespace SqlSchema

open Syntax Text

/-! ## What has been read can be read again -/

theorem wellFormed_of_readType {source : String} {t : DataType}
    (h : (readType source).outcome = .ok t) : t.WellFormed ∧ t.nesting ≤ nestingLimit := by
  obtain ⟨l, -, x, hx, ht, hn⟩ := readType_eq_ok_iff.1 h
  exact ⟨(hx.nesting_eq ht).2, hn⟩

theorem Syntax.DerivesColumns.wellFormed {ts : Tokens} {cs : List ColumnTree}
    {fs : List (Role × Field)} (hc : DerivesColumns ts cs) (hfs : columnTypes? cs = some fs) :
    ∀ f ∈ fs, f.2.type.WellFormed := by
  induction hc generalizing fs with
  | one hk hx hm =>
    obtain ⟨t, ht, gs, hgs, rfl⟩ := columnTypes?_cons_eq_some_iff.1 hfs
    obtain rfl := Option.some.inj hgs
    simpa using (hx.nesting_eq ht).2
  | cons hk hx hm hc ih =>
    obtain ⟨t, ht, gs, hgs, rfl⟩ := columnTypes?_cons_eq_some_iff.1 hfs
    exact List.forall_mem_cons.2 ⟨(hx.nesting_eq ht).2, ih hgs⟩

theorem Syntax.DerivesSchema.wellFormed {ts : Tokens} {cs : List ColumnTree}
    {fs : List (Role × Field)} (hc : DerivesSchema ts cs) (hfs : columnTypes? cs = some fs) :
    ∀ f ∈ fs, f.2.type.WellFormed := by
  cases hc with
  | empty =>
    obtain rfl := Option.some.inj hfs
    simp
  | columns hc => exact hc.wellFormed hfs

namespace Schema

theorem map_field_columns (s : Schema) : s.columns.map Column.field = s.keys ++ s.values := by
  rw [columns, List.map_append, map_field_keyColumns, map_field_valueColumns]

theorem readable_iff {s : Schema} : s.Readable ↔
    ∀ f ∈ s.keys ++ s.values, f.type.WellFormed ∧ f.type.nesting ≤ nestingLimit := by
  rw [← map_field_columns, List.forall_mem_map]
  rfl

theorem readable_of_readSchema {source : String} {s : Schema}
    (h : (readSchema source).outcome = .ok s) : s.Readable := by
  obtain ⟨l, fs, -, ⟨cs, hc, hcs, hn⟩, rfl⟩ := readSchema_eq_ok_iff.1 h
  have hwf := hc.wellFormed hcs
  rw [readable_iff]
  intro f hf
  have hmem (role : Role) (hf : f ∈ fieldsOf role fs) : ∃ g ∈ fs, g.2 = f := by
    obtain ⟨g, hg, rfl⟩ := List.mem_map.1 hf
    exact ⟨g, (List.mem_filter.1 hg).1, rfl⟩
  obtain ⟨g, hg, rfl⟩ := (List.mem_append.1 hf).elim (hmem .key) (hmem .value)
  exact ⟨hwf g hg, hn g hg⟩

theorem Readable.join {left right joined : Schema} (hl : left.Readable) (hr : right.Readable)
    (h : (left.join right).outcome = .ok joined) : joined.Readable := by
  obtain ⟨k, l, -, -, -, rfl⟩ := join_eq_ok_iff.1 h
  rw [readable_iff] at hl hr ⊢
  intro f hf
  simp only [List.mem_append] at hl hr hf
  rcases hf with hf | hf | hf
  · exact hl f (Or.inl hf)
  · exact hl f (Or.inr hf)
  · exact hr f (Or.inr hf)

end Schema

/-! ## The ends of a written type -/

/-- The text starts with a character that is no blank. -/
def StartsVisibly (s : String) : Prop :=
  s.toList.head?.any fun c => !isBlank c

instance (s : String) : Decidable (StartsVisibly s) :=
  inferInstanceAs (Decidable (_ = true))

theorem StartsVisibly.append {s : String} (h : StartsVisibly s) (t : String) :
    StartsVisibly (s ++ t) := by
  unfold StartsVisibly at *
  rw [String.toList_append, List.head?_append]
  cases hs : s.toList.head? with
  | none => simp [hs] at h
  | some c => simpa [hs] using h

theorem DataType.startsVisibly_render (reserved : ReservedWords) (t : DataType) :
    StartsVisibly (t.render reserved) := by
  cases t with
  | decimal d =>
    rw [DataType.render, DecimalType.text, String.append_assoc, String.append_assoc,
      String.append_assoc]
    exact StartsVisibly.append (by decide) _
  | array item =>
    rw [DataType.render, String.append_assoc]
    exact StartsVisibly.append (by decide) _
  | map key value =>
    rw [DataType.render, String.append_assoc, String.append_assoc, String.append_assoc]
    exact StartsVisibly.append (by decide) _
  | struct fields =>
    cases fields with
    | nil =>
      rw [DataType.render]
      decide
    | cons f fs =>
      rw [DataType.render, String.append_assoc]
      exact StartsVisibly.append (by decide) _
  | boolean | integer | bigint | double | string =>
    rw [DataType.render]
    decide

/-- The text of a type starts with its keyword and ends with it or a bracket. -/
theorem DataType.trimmed_render (reserved : ReservedWords) (t : DataType) :
    Trimmed (t.render reserved).toList := by
  have hstart := t.startsVisibly_render reserved
  have hend := t.endsVisibly_render reserved
  unfold StartsVisibly at hstart
  unfold EndsVisibly at hend
  constructor
  · intro c hc
    rw [hc] at hstart
    simpa using hstart
  · intro c hc
    rw [hc] at hend
    simpa using hend

/-! ## Showing a text again -/

namespace Shell

open Log

/-- The command of a word, applied to a text, shows the text. -/
def Shows (reserved : ReservedWords) (word : String) (commandOf : String → Command)
    (text : String) : Prop :=
  (Command.read (word ++ " " ++ text)).outcome = .ok (commandOf text) ∧
    ((commandOf text).run reserved).outcome = .ok (.text text)

/-- The schema that a command shows: that of a column list or that of a join. -/
inductive ShowsSchema : Command → Schema → Prop
  | schema {source : String} {s : Schema} : (readSchema source).outcome = .ok s →
      ShowsSchema (.schema source) s
  | join {left right : String} {l r s : Schema} : (readSchema left).outcome = .ok l →
      (readSchema right).outcome = .ok r → (l.join r).outcome = .ok s →
      ShowsSchema (.join left right) s

/-- A command with a text behind its word is read as the word and the text. -/
theorem outcome_read_trimmed {word text : String} (hne : word.toList ≠ [])
    (hw : word.toList.all fun c => !isBlank c) (ht : Trimmed text.toList) :
    (Command.read (word ++ " " ++ text)).outcome =
      (Command.ofWord word (String.ofList (word.toList.map Char.toLower)) text.toList).mapError
        .parse := by
  have hline : word ++ " " ++ text = String.ofList (word.toList ++ ' ' :: text.toList) := by
    rw [← String.toList_inj]
    simp
  have hblank : ∀ c ∈ word.toList, isBlank c = false := by
    intro c hc
    simpa using List.all_eq_true.1 hw c hc
  rw [hline, Command.outcome_read_word hne hblank, ht.trimChars_eq, String.ofList_toList]

theorem run_type_eq_ok_iff {reserved : ReservedWords} {source : String} {reply : Reply} :
    ((Command.type source).run reserved).outcome = .ok reply ↔
      ∃ t, (readType source).outcome = .ok t ∧ reply = .text (t.render reserved) := by
  simp only [Command.run, Logged.outcome_bind, Logged.outcome_mapError, Logged.outcome_pure,
    bind_eq_ok_iff, mapError_eq_ok_iff, Except.ok.injEq]
  exact exists_congr fun t => and_congr_right fun _ => eq_comm

theorem run_schema_eq_ok_iff {reserved : ReservedWords} {source : String} {reply : Reply} :
    ((Command.schema source).run reserved).outcome = .ok reply ↔
      ∃ s, (readSchema source).outcome = .ok s ∧ reply = .text (s.render reserved) := by
  simp only [Command.run, Command.readSource, Logged.outcome_bind, Logged.outcome_mapError,
    Logged.outcome_pure, bind_eq_ok_iff, mapError_eq_ok_iff, Except.ok.injEq]
  exact exists_congr fun s => and_congr_right fun _ => eq_comm

theorem run_join_eq_ok_iff {reserved : ReservedWords} {left right : String} {reply : Reply} :
    ((Command.join left right).run reserved).outcome = .ok reply ↔
      ∃ s, ShowsSchema (.join left right) s ∧ reply = .text (s.render reserved) := by
  simp only [Command.run, Command.readSource, Logged.outcome_bind, Logged.outcome_mapError,
    Logged.outcome_pure, bind_eq_ok_iff, mapError_eq_ok_iff, Except.ok.injEq]
  constructor
  · rintro ⟨l, hl, r, hr, s, hs, rfl⟩
    exact ⟨s, .join hl hr hs, rfl⟩
  · rintro ⟨s, hs, rfl⟩
    cases hs with
    | join hl hr hs => exact ⟨_, hl, _, hr, s, hs, rfl⟩

theorem exists_showsSchema {reserved : ReservedWords} {command : Command} {text : String}
    (hcommand : (∃ source, command = .schema source) ∨ ∃ left right, command = .join left right)
    (h : (command.run reserved).outcome = .ok (.text text)) :
    ∃ s, ShowsSchema command s ∧ text = s.render reserved := by
  rcases hcommand with ⟨source, rfl⟩ | ⟨left, right, rfl⟩
  · obtain ⟨s, hs, htext⟩ := run_schema_eq_ok_iff.1 h
    exact ⟨s, .schema hs, Reply.text.inj htext⟩
  · obtain ⟨s, hs, htext⟩ := run_join_eq_ok_iff.1 h
    exact ⟨s, hs, Reply.text.inj htext⟩

theorem ShowsSchema.readable {command : Command} {s : Schema} (h : ShowsSchema command s) :
    s.Readable := by
  cases h with
  | schema hs => exact Schema.readable_of_readSchema hs
  | join hl hr hs =>
    exact (Schema.readable_of_readSchema hl).join (Schema.readable_of_readSchema hr) hs

theorem shows_type {reserved : ReservedWords} {t : DataType}
    (h : (readType (t.render reserved)).outcome = .ok t) :
    Shows reserved "type" .type (t.render reserved) := by
  have hlower : String.ofList ("type".toList.map Char.toLower) = "type" := by decide
  refine ⟨?_, run_type_eq_ok_iff.2 ⟨t, h, rfl⟩⟩
  rw [outcome_read_trimmed (by decide) (by decide) (t.trimmed_render reserved), hlower,
    Command.ofWord, if_pos rfl, String.ofList_toList]
  rfl

theorem shows_schema {reserved : ReservedWords} {s : Schema}
    (h : (readSchema (s.render reserved)).outcome = .ok s) :
    Shows reserved "schema" .schema (s.render reserved) := by
  have hlower : String.ofList ("schema".toList.map Char.toLower) = "schema" := by decide
  refine ⟨?_, run_schema_eq_ok_iff.2 ⟨s, h, rfl⟩⟩
  rw [outcome_read_trimmed (by decide) (by decide) (s.trimmed_render reserved), hlower,
    Command.ofWord, if_neg (by decide), if_pos rfl, String.ofList_toList]
  rfl

/-- Whatever line asks for a type, the text that it shows is read as this type, and the text behind
`type` shows the same text. The text that a line with columns or a join shows is read as the schema
of it, and the text behind `schema` shows the same text. -/
theorem shown_texts_are_canonical (reserved : ReservedWords) (line : String) :
    (∀ source text, (Command.read line).outcome = .ok (.type source) →
      ((Command.type source).run reserved).outcome = .ok (.text text) →
      Shows reserved "type" .type text ∧
        ∃ t, (readType source).outcome = .ok t ∧ text = t.render reserved ∧
          (readType text).outcome = .ok t) ∧
    ∀ command text, (Command.read line).outcome = .ok command →
      ((∃ source, command = .schema source) ∨ ∃ left right, command = .join left right) →
      (command.run reserved).outcome = .ok (.text text) →
      Shows reserved "schema" .schema text ∧
        ∃ s, ShowsSchema command s ∧ text = s.render reserved ∧
          (readSchema text).outcome = .ok s := by
  constructor
  · intro source text _ hrun
    obtain ⟨t, ht, htext⟩ := run_type_eq_ok_iff.1 hrun
    obtain rfl := Reply.text.inj htext
    obtain ⟨hwf, hn⟩ := wellFormed_of_readType ht
    have hread := (readType_render reserved t hwf).1 hn
    exact ⟨shows_type hread, t, ht, rfl, hread⟩
  · intro command text _ hcommand hrun
    obtain ⟨s, hs, rfl⟩ := exists_showsSchema hcommand hrun
    have hread := hs.readable.outcome_readSchema reserved
    exact ⟨shows_schema hread, s, hs, rfl, hread⟩

/-- A join of columns in odd spellings shows a text that is shown again. So does the empty column
list. -/
theorem shown_texts_are_canonical_join :
    (Command.read
        "join \x60a\x60  Varchar,k int key;K integer Key, \x60b c\x60 array< int >").outcome =
      .ok (.join "\x60a\x60  Varchar,k int key" "K integer Key, \x60b c\x60 array< int >") ∧
    ((Command.join "\x60a\x60  Varchar,k int key" "K integer Key, \x60b c\x60 array< int >").run
      .none).outcome = .ok (.text "k INTEGER KEY, a STRING, \x60b c\x60 ARRAY<INTEGER>") ∧
    Shows .none "schema" .schema "k INTEGER KEY, a STRING, \x60b c\x60 ARRAY<INTEGER>" ∧
    Shows .none "schema" .schema "" := by
  have hread := Command.outcome_read_join (x := "\x60a\x60  Varchar,k int key".toList) (by decide)
    "K integer Key, \x60b c\x60 array< int >".toList
  have hleft : (readSchema "\x60a\x60  Varchar,k int key").outcome =
      .ok ⟨[⟨"k", .integer⟩], [⟨"a", .string⟩]⟩ := by
    have htokens : tokenize "\x60a\x60  Varchar,k int key" = .ok ⟨[⟨.quoted "a", 0⟩,
        ⟨.ident "Varchar", 5⟩, ⟨.comma, 12⟩, ⟨.ident "k", 13⟩, ⟨.ident "int", 15⟩,
        ⟨.ident "key", 19⟩], 22⟩ :=
      tokenize_eq_of_tokensBelow 7 (by decide +kernel)
    rw [readSchema_outcome, htokens]
    rfl
  have hright : (readSchema "K integer Key, \x60b c\x60 array< int >").outcome =
      .ok ⟨[⟨"K", .integer⟩], [⟨"b c", .array .integer⟩]⟩ := by
    have htokens : tokenize "K integer Key, \x60b c\x60 array< int >" = .ok ⟨[⟨.ident "K", 0⟩,
        ⟨.ident "integer", 2⟩, ⟨.ident "Key", 10⟩, ⟨.comma, 13⟩, ⟨.quoted "b c", 15⟩,
        ⟨.ident "array", 21⟩, ⟨.lt, 26⟩, ⟨.ident "int", 28⟩, ⟨.gt, 32⟩], 33⟩ :=
      tokenize_eq_of_tokensBelow 10 (by decide +kernel)
    rw [readSchema_outcome, htokens]
    rfl
  have hrun : ((Command.join "\x60a\x60  Varchar,k int key"
      "K integer Key, \x60b c\x60 array< int >").run .none).outcome =
      .ok (.text "k INTEGER KEY, a STRING, \x60b c\x60 ARRAY<INTEGER>") :=
    run_join_eq_ok_iff.2 ⟨_, .join hleft hright rfl, rfl⟩
  have hempty : (Command.read "schema").outcome = .ok (.schema "") := rfl
  have hnothing : (readSchema "").outcome = .ok ⟨[], []⟩ := by
    have htokens : tokenize "" = .ok ⟨[], 0⟩ := tokenize_eq_of_tokensBelow 1 rfl
    rw [readSchema_outcome, htokens]
    rfl
  have hshown : ((Command.schema "").run .none).outcome = .ok (.text "") :=
    run_schema_eq_ok_iff.2 ⟨_, hnothing, rfl⟩
  exact ⟨hread, hrun,
    ((shown_texts_are_canonical .none _).2 _ _ hread (Or.inr ⟨_, _, rfl⟩) hrun).1,
    ((shown_texts_are_canonical .none _).2 _ _ hempty (Or.inl ⟨_, rfl⟩) hshown).1⟩

end Shell

end SqlSchema
