import SqlSchema.Proofs.ColumnReading
import SqlSchema.Proofs.RoundTrip

/-!
# Reading back the text of columns

Columns in any order, with commas between their texts, are read as the schema that has the key
columns and the others, each in order and counted anew from zero. So the text of a schema is read as
the schema (`readSchema_render`).
-/

namespace SqlSchema

open Syntax Text

/-! ## Columns of one role -/

theorem columnsFrom_map_field {role : Role} {cs : List Column} (h : ∀ c ∈ cs, c.role = role)
    (start : Nat) : columnsFrom role start (cs.map Column.field) =
      cs.mapIdx fun i c => { c with index := start + i } := by
  induction cs generalizing start with
  | nil => rfl
  | cons c cs ih =>
    obtain ⟨hc, hcs⟩ := List.forall_mem_cons.1 h
    rw [List.map_cons, columnsFrom, ih hcs, List.mapIdx_cons]
    simp only [hc, Nat.add_zero, Nat.add_assoc, Nat.add_comm 1]

/-- The columns of a role with their places among them as indexes. -/
def numbered (role : Role) (cs : List Column) : List Column :=
  (cs.filter fun c => c.role = role).mapIdx fun i c => { c with index := i }

/-- A column by its role and its field. -/
def Column.roleAndField (c : Column) : Role × Field :=
  (c.role, c.field)

theorem fieldsOf_map_roleAndField (role : Role) (cs : List Column) :
    fieldsOf role (cs.map Column.roleAndField) =
      (cs.filter fun c => c.role = role).map Column.field := by
  rw [fieldsOf, List.filter_map, List.map_map]
  rfl

theorem columnsFrom_fieldsOf (role : Role) (cs : List Column) :
    columnsFrom role 0 (fieldsOf role (cs.map Column.roleAndField)) = numbered role cs := by
  have hrole : ∀ c ∈ cs.filter fun c => c.role = role, c.role = role := by
    intro c hc
    exact of_decide_eq_true (List.mem_filter.1 hc).2
  rw [fieldsOf_map_roleAndField, columnsFrom_map_field hrole, numbered]
  simp only [Nat.zero_add]

theorem filter_columnsFrom (role role' : Role) (start : Nat) (fs : List Field) :
    (columnsFrom role start fs).filter (fun c => c.role = role') =
      if role = role' then columnsFrom role start fs else [] := by
  induction fs generalizing start with
  | nil => simp [columnsFrom]
  | cons f fs ih =>
    rw [columnsFrom, List.filter_cons, ih]
    by_cases h : role = role' <;> simp [h]

/-- A schema has its own columns. -/
theorem Schema.ofRoles_columns (s : Schema) :
    Schema.ofRoles (s.columns.map Column.roleAndField) = s := by
  rw [Schema.ofRoles, fieldsOf_map_roleAndField, fieldsOf_map_roleAndField, Schema.columns,
    List.filter_append, List.filter_append, Schema.keyColumns, Schema.valueColumns]
  simp [filter_columnsFrom, map_field_columnsFrom]

/-! ## Trees and tokens -/

/-- The syntax trees of columns whose texts stand from the offset `n` on. -/
def columnTrees (reserved : ReservedWords) (n : Nat) : List Column → List ColumnTree
  | [] => []
  | c :: cs =>
    ⟨c.name, c.type.tree reserved (n + (reserved.escape c.name).utf8ByteSize + 1), c.role⟩ ::
      columnTrees reserved (n + (c.render reserved).utf8ByteSize + 2) cs

theorem Role.exists_tokens (role : Role) {l : List Char} {n : Nat} {ts : Tokens}
    (h : Lexes l n ts) : ∃ ms, Lexes (l ++ (if role = .key then " KEY" else "").toList) n
      (ts ++ ms) ∧ DerivesRole ms role := by
  cases role with
  | key =>
    have hi : Name.isIdentifier "KEY" := by decide
    have hkey := fun m => Lexes.token (.ident hi) m
    exact ⟨_, h.append (by decide) (.blank (hkey _)), .key (by decide)⟩
  | value =>
    refine ⟨[], ?_, .value⟩
    rw [List.append_nil]
    simpa using h

theorem Column.exists_tokens (reserved : ReservedWords) (n : Nat) (c : Column) :
    ∃ k ts ms, Lexes (c.render reserved).toList n (⟨k, n⟩ :: (ts ++ ms)) ∧
      k.name? = some c.name ∧
      Derives ts (c.type.tree reserved (n + (reserved.escape c.name).utf8ByteSize + 1)) ∧
      DerivesRole ms c.role := by
  obtain ⟨k, hk, hname⟩ := reserved.exists_spells_escape c.name
  obtain ⟨ts, hts, hd⟩ := c.type.exists_tokens reserved
    (n + (reserved.escape c.name).utf8ByteSize + 1)
  rw [← byteLength_toList] at hts
  obtain ⟨ms, hms, hm⟩ := c.role.exists_tokens hts
  rw [c.toList_render]
  exact ⟨k, ts, ms, (Lexes.token hk n).append (by decide) (.blank hms), hname, hd, hm⟩

theorem exists_tokens_columns (reserved : ReservedWords) (n : Nat) {cs : List Column}
    (hne : cs ≠ []) : ∃ ts, Lexes (", ".intercalate (cs.map (Column.render reserved))).toList n ts ∧
      DerivesColumns ts (columnTrees reserved n cs) := by
  induction cs generalizing n with
  | nil => exact absurd rfl hne
  | cons c cs ih =>
    obtain ⟨k, ts, ms, hlex, hname, hd, hm⟩ := c.exists_tokens reserved n
    cases cs with
    | nil =>
      rw [List.map_singleton, String.intercalate_singleton]
      exact ⟨_, hlex, .one hname hd hm⟩
    | cons c' cs =>
      obtain ⟨us, hus, hc⟩ := ih (n + (c.render reserved).utf8ByteSize + 2) (by simp)
      rw [← byteLength_toList] at hus
      have hrest := hlex.append (by decide) (lexes_comma hus)
      rw [List.cons_append, List.append_assoc] at hrest
      rw [List.map_cons, List.map_cons, toList_intercalate_cons_cons]
      exact ⟨_, hrest, .cons hname hd hm hc⟩

theorem readSchema_columns_eq (reserved : ReservedWords) (cs : List Column) :
    (readSchema (", ".intercalate (cs.map (Column.render reserved)))).outcome =
      resolveColumns {} (columnTrees reserved 0 cs) := by
  rw [readSchema_outcome]
  cases cs with
  | nil =>
    have h : Lexes (", ".intercalate (List.map (Column.render reserved) [])).toList 0 [] := by
      simpa using Lexes.nil 0
    rw [h.tokenize_eq]
    rfl
  | cons c cs =>
    obtain ⟨ts, hts, hd⟩ := exists_tokens_columns reserved 0 (List.cons_ne_nil c cs)
    rw [hts.tokenize_eq]
    exact hd.readAll_eq .first _

/-! ## Schemas -/

/-- Columns whose types are nested within the limit come to the schema that has them. -/
theorem resolveColumns_columnTrees (reserved : ReservedWords) (n : Nat) (earlier : Schema)
    {cs : List Column} (h : ∀ c ∈ cs, c.type.WellFormed)
    (hn : ∀ c ∈ cs, c.type.nesting ≤ nestingLimit) :
    resolveColumns earlier (columnTrees reserved n cs) =
      .ok (earlier.addAll (cs.map Column.roleAndField)) := by
  induction cs generalizing n earlier with
  | nil => rfl
  | cons c cs ih =>
    obtain ⟨hc, hcs⟩ := List.forall_mem_cons.1 h
    obtain ⟨hcn, hcsn⟩ := List.forall_mem_cons.1 hn
    rw [columnTrees, resolveColumns, DataType.resolve_tree_eq_ok reserved _ hc hcn]
    show resolveColumns (earlier.add c.role ⟨c.name, c.type⟩) _ = _
    rw [c.mk_name_type]
    exact ih _ _ hcs hcsn

/-- The first column whose type is nested too deep ends the reading. -/
theorem exists_tooDeep_columnTrees (reserved : ReservedWords) (n : Nat) (earlier : Schema)
    {cs : List Column} (h : ∀ c ∈ cs, c.type.WellFormed)
    (hn : ∃ c ∈ cs, nestingLimit < c.type.nesting) :
    ∃ o, resolveColumns earlier (columnTrees reserved n cs) = .error (.tooDeep o) := by
  induction cs generalizing n earlier with
  | nil =>
    obtain ⟨c, hc, -⟩ := hn
    cases hc
  | cons c cs ih =>
    obtain ⟨hc, hcs⟩ := List.forall_mem_cons.1 h
    rw [columnTrees, resolveColumns]
    by_cases hcn : c.type.nesting ≤ nestingLimit
    · obtain ⟨d, hd, hdn⟩ := hn
      rcases List.mem_cons.1 hd with rfl | hd
      · omega
      · rw [DataType.resolve_tree_eq_ok reserved _ hc hcn]
        exact ih _ _ hcs ⟨d, hd, hdn⟩
    · obtain ⟨p, hp⟩ := DataType.exists_tooDeep reserved _ hc (Nat.lt_of_not_le hcn)
      rw [DataType.resolve_tree reserved _ _ hc (Nat.zero_le _), hp]
      exact ⟨p.offset, rfl⟩

/-- The texts of columns in any order are read as the schema that has these columns, those of each
role in order and with their places as indexes. If a type is nested too deep, this is the fault. The
text of a schema is read as the schema. -/
theorem readSchema_render (reserved : ReservedWords) :
    (∀ cs : List Column, (∀ c ∈ cs, c.type.WellFormed) →
      ((∀ c ∈ cs, c.type.nesting ≤ nestingLimit) →
        ∃ s, (readSchema (", ".intercalate (cs.map (Column.render reserved)))).outcome = .ok s ∧
          s.keyColumns = numbered .key cs ∧ s.valueColumns = numbered .value cs) ∧
      ((∃ c ∈ cs, nestingLimit < c.type.nesting) →
        ∃ o, (readSchema (", ".intercalate (cs.map (Column.render reserved)))).outcome =
          .error (.tooDeep o))) ∧
    (∀ s : Schema, (∀ c ∈ s.columns, c.type.WellFormed) →
      (∀ c ∈ s.columns, c.type.nesting ≤ nestingLimit) →
      (readSchema (s.render reserved)).outcome = .ok s) := by
  refine ⟨?_, ?_⟩
  · intro cs h
    rw [readSchema_columns_eq]
    constructor
    · intro hn
      refine ⟨.ofRoles (cs.map Column.roleAndField), ?_, columnsFrom_fieldsOf .key cs,
        columnsFrom_fieldsOf .value cs⟩
      rw [resolveColumns_columnTrees reserved 0 {} h hn, Schema.addAll_empty]
    · intro hn
      exact exists_tooDeep_columnTrees reserved 0 {} h hn
  · intro s h hn
    rw [Schema.render, readSchema_columns_eq, resolveColumns_columnTrees reserved 0 {} h hn,
      Schema.addAll_empty, s.ofRoles_columns]

/-- Key columns named like the mark of a key, around a value column without a name. -/
theorem readSchema_render_interleaved :
    let cs : List Column := [⟨⟨"KEY", .integer⟩, .key, 5⟩, ⟨⟨"", .struct []⟩, .value, 5⟩,
      ⟨⟨"KEY", .map .string .double⟩, .key, 5⟩]
    (∀ c ∈ cs, c.type.WellFormed) ∧ (∀ c ∈ cs, c.type.nesting ≤ nestingLimit) ∧
      ∃ s, (readSchema (", ".intercalate (cs.map (Column.render .none)))).outcome = .ok s ∧
        s.keyColumns = [⟨⟨"KEY", .integer⟩, .key, 0⟩, ⟨⟨"KEY", .map .string .double⟩, .key, 1⟩] ∧
        s.valueColumns = [⟨⟨"", .struct []⟩, .value, 0⟩] := by
  intro cs
  have hcs : ∀ c ∈ cs, c.type.WellFormed := by
    simp [cs, Column.type, DataType.WellFormed, AllWellFormed]
  have hn : ∀ c ∈ cs, c.type.nesting ≤ nestingLimit := by decide
  obtain ⟨s, hs, hkeys, hvalues⟩ := ((readSchema_render .none).1 cs hcs).1 hn
  exact ⟨hcs, hn, s, hs, hkeys, hvalues⟩

end SqlSchema
