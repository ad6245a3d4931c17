import SqlSchema.Schema.Stored

/-!
# How columns are numbered

However a schema is put together, each of its columns has the role under which it was added, and
its place among the columns of this role for an index (`StoredSchema.Numbered`). One more column
keeps this, so it holds after any calls. Names and types then tell all there is in a schema, and
`building_outcomes` says which names and types those are.

So a stored schema is just the schema that is meant, numbered by its places
(`StoredSchema.Numbered.eq_ofSchema`).
-/

namespace SqlSchema

/-! ## Columns in new places -/

/-- The columns in their order, as columns of a role and numbered from zero. -/
def renumbered (role : Role) (cs : List Column) : List Column :=
  cs.mapIdx fun i c => ⟨c.field, role, i⟩

theorem columnsFrom_eq_mapIdx (role : Role) (start : Nat) (fs : List Field) :
    columnsFrom role start fs = fs.mapIdx fun i f => ⟨f, role, start + i⟩ := by
  induction fs generalizing start with
  | nil => rfl
  | cons f fs ih =>
    rw [columnsFrom, ih, List.mapIdx_cons]
    simp only [Nat.add_zero, Nat.add_assoc, Nat.add_comm 1]

/-- What role and index a column had elsewhere does not matter. -/
theorem columnsFrom_map_field_eq_renumbered (role : Role) (cs : List Column) :
    columnsFrom role 0 (cs.map Column.field) = renumbered role cs := by
  rw [columnsFrom_eq_mapIdx, renumbered]
  apply List.ext_getElem
  · simp
  · simp

namespace Schema

theorem map_field_keyColumns (s : Schema) : s.keyColumns.map Column.field = s.keys :=
  map_field_columnsFrom .key 0 s.keys

theorem map_field_valueColumns (s : Schema) : s.valueColumns.map Column.field = s.values :=
  map_field_columnsFrom .value 0 s.values

end Schema

/-! ## Stored schemas -/

/-- A call that adds columns to a schema under a role: one by its name and type, or several as they
are found elsewhere. -/
inductive ColumnCall where
  | column (role : Role) (name : String) (type : DataType)
  | columns (role : Role) (cs : List Column)

namespace ColumnCall

def role : ColumnCall → Role
  | column role _ _ => role
  | columns role _ => role

def fields : ColumnCall → List Field
  | column _ name type => [⟨name, type⟩]
  | columns _ cs => cs.map Column.field

end ColumnCall

/-- The names and types that calls add under a role, in their order. -/
def contributed (role : Role) (calls : List ColumnCall) : List Field :=
  (calls.filter fun a => a.role = role).flatMap ColumnCall.fields

namespace StoredSchema

variable {s t : StoredSchema} {a b : ColumnCall}

def call (s : StoredSchema) : ColumnCall → StoredSchema
  | .column role name type => s.add role name type
  | .columns role cs => s.addColumns role cs

def run (s : StoredSchema) (calls : List ColumnCall) : StoredSchema :=
  calls.foldl call s

/-- The schema is what some calls make of no columns. -/
def Built (s : StoredSchema) : Prop :=
  ∃ calls, empty.run calls = s

def fields (s : StoredSchema) (role : Role) : List Field :=
  (s.ofRole role).map Column.field

/-- Each column has its role, and its place for an index. -/
def Numbered (s : StoredSchema) : Prop :=
  ∀ role, s.ofRole role = columnsFrom role 0 (s.fields role)

theorem Numbered.keys_eq (h : s.Numbered) : s.keys = columnsFrom .key 0 (s.keys.map Column.field) :=
  h .key

theorem Numbered.values_eq (h : s.Numbered) :
    s.values = columnsFrom .value 0 (s.values.map Column.field) :=
  h .value

theorem eq_of_ofRole_eq (h : ∀ role, s.ofRole role = t.ofRole role) : s = t := by
  obtain ⟨keys, values⟩ := s
  obtain ⟨keys', values'⟩ := t
  obtain rfl : keys = keys' := h .key
  obtain rfl : values = values' := h .value
  rfl

theorem Numbered.eq_of_fields_eq (hs : s.Numbered) (ht : t.Numbered)
    (h : ∀ role, s.fields role = t.fields role) : s = t := by
  apply eq_of_ofRole_eq
  intro role
  rw [hs role, ht role, h role]

/-! ## One column -/

theorem ofRole_add (s : StoredSchema) (role other : Role) (name : String) (type : DataType) :
    (s.add role name type).ofRole other =
      if other = role then s.ofRole other ++ [⟨⟨name, type⟩, other, (s.ofRole other).length⟩]
      else s.ofRole other := by
  cases role <;> cases other <;> rfl

theorem fields_add (s : StoredSchema) (role other : Role) (name : String) (type : DataType) :
    (s.add role name type).fields other =
      s.fields other ++ if other = role then [⟨name, type⟩] else [] := by
  unfold fields
  rw [ofRole_add]
  by_cases h : other = role
  · rw [if_pos h, if_pos h, List.map_append]
    rfl
  · rw [if_neg h, if_neg h, List.append_nil]

theorem numbered_empty : empty.Numbered := by
  intro role
  cases role <;> rfl

theorem Numbered.add (h : s.Numbered) (role : Role) (name : String) (type : DataType) :
    (s.add role name type).Numbered := by
  intro other
  have hlength : (s.fields other).length = (s.ofRole other).length := List.length_map _
  rw [ofRole_add, fields_add]
  by_cases hrole : other = role
  · rw [if_pos hrole, if_pos hrole, columnsFrom_append, ← h other, hlength, Nat.zero_add]
    rfl
  · rw [if_neg hrole, if_neg hrole, List.append_nil]
    exact h other

theorem schema_add (s : StoredSchema) (role : Role) (name : String) (type : DataType) :
    (s.add role name type).schema = s.schema.add role ⟨name, type⟩ := by
  cases role <;> simp [schema, StoredSchema.add]

/-! ## Many columns -/

theorem fields_addColumns (s : StoredSchema) (role other : Role) (cs : List Column) :
    (s.addColumns role cs).fields other =
      s.fields other ++ if other = role then cs.map Column.field else [] := by
  unfold addColumns
  induction cs generalizing s with
  | nil =>
    rw [List.foldl_nil, List.map_nil, ite_self, List.append_nil]
  | cons c cs ih =>
    rw [List.foldl_cons, ih, fields_add, List.append_assoc, c.mk_name_type]
    by_cases h : other = role
    · rw [if_pos h, if_pos h, if_pos h]
      rfl
    · rw [if_neg h, if_neg h, if_neg h]
      rfl

theorem Numbered.addColumns (h : s.Numbered) (role : Role) (cs : List Column) :
    (s.addColumns role cs).Numbered := by
  unfold StoredSchema.addColumns
  induction cs generalizing s with
  | nil => exact h
  | cons c cs ih => exact ih (h.add role c.name c.type)

theorem schema_addColumns (s : StoredSchema) (role : Role) (cs : List Column) :
    (s.addColumns role cs).schema = s.schema.addColumns role cs := by
  unfold addColumns Schema.addColumns
  induction cs generalizing s with
  | nil => rfl
  | cons c cs ih =>
    rw [List.foldl_cons, List.foldl_cons, ih, schema_add, c.mk_name_type]

/-! ## Calls -/

theorem Numbered.call (h : s.Numbered) (a : ColumnCall) : (s.call a).Numbered := by
  cases a with
  | column role name type => exact h.add role name type
  | columns role cs => exact h.addColumns role cs

theorem fields_call (s : StoredSchema) (a : ColumnCall) (role : Role) :
    (s.call a).fields role = s.fields role ++ contributed role [a] := by
  have hcall : (s.call a).fields role =
      s.fields role ++ if role = a.role then a.fields else [] := by
    cases a with
    | column other name type => exact s.fields_add other role name type
    | columns other cs => exact s.fields_addColumns other role cs
  rw [hcall]
  by_cases h : role = a.role
  · simp [contributed, h]
  · simp [contributed, h, Ne.symm h]

theorem contributed_append (role : Role) (calls later : List ColumnCall) :
    contributed role (calls ++ later) = contributed role calls ++ contributed role later := by
  simp [contributed]

theorem Numbered.run (h : s.Numbered) (calls : List ColumnCall) : (s.run calls).Numbered := by
  induction calls generalizing s with
  | nil => exact h
  | cons a calls ih => exact ih (h.call a)

/-- Calls add just what they contribute, each role for itself. -/
theorem fields_run (s : StoredSchema) (calls : List ColumnCall) (role : Role) :
    (s.run calls).fields role = s.fields role ++ contributed role calls := by
  induction calls generalizing s with
  | nil => exact (List.append_nil _).symm
  | cons a calls ih =>
    rw [run, List.foldl_cons]
    show ((s.call a).run calls).fields role = _
    rw [ih, fields_call, List.append_assoc, ← contributed_append]
    rfl

theorem fields_run_empty (calls : List ColumnCall) (role : Role) :
    (empty.run calls).fields role = contributed role calls := by
  rw [fields_run]
  cases role <;> rfl

theorem Built.numbered (h : s.Built) : s.Numbered := by
  obtain ⟨calls, rfl⟩ := h
  exact numbered_empty.run calls

/-- Runs that contribute the same make the same schema. -/
theorem run_empty_eq {calls calls' : List ColumnCall}
    (h : ∀ role, contributed role calls = contributed role calls') :
    empty.run calls = empty.run calls' := by
  apply (numbered_empty.run calls).eq_of_fields_eq (numbered_empty.run calls')
  intro role
  rw [fields_run_empty, fields_run_empty, h role]

theorem contributed_swap (h : a.role ≠ b.role) (role : Role) (before after : List ColumnCall) :
    contributed role (before ++ a :: b :: after) =
      contributed role (before ++ b :: a :: after) := by
  have hswap : contributed role [a, b] = contributed role [b, a] := by
    by_cases ha : a.role = role
    · have hb : b.role ≠ role := fun hb => h (ha.trans hb.symm)
      simp [contributed, ha, hb]
    · by_cases hb : b.role = role <;> simp [contributed, ha, hb]
  have hsplit : ∀ x y : ColumnCall, contributed role (before ++ x :: y :: after) =
      contributed role before ++ (contributed role [x, y] ++ contributed role after) := by
    intro x y
    rw [← contributed_append, ← contributed_append]
    rfl
  rw [hsplit, hsplit, hswap]

/-- The calls that take the columns of a schema for their roles make this schema again. -/
theorem Numbered.run_eq (h : s.Numbered) {calls : List ColumnCall}
    (hcalls : ∀ role, contributed role calls = s.fields role) : empty.run calls = s := by
  apply (numbered_empty.run calls).eq_of_fields_eq h
  intro role
  rw [fields_run_empty, hcalls role]

/-! ## The schema that is meant -/

theorem Numbered.eq_ofSchema (h : s.Numbered) : ofSchema s.schema = s := by
  apply eq_of_ofRole_eq
  intro role
  rw [h role]
  cases role <;> rfl

theorem schema_ofSchema (s : Schema) : (ofSchema s).schema = s := by
  unfold schema ofSchema
  rw [s.map_field_keyColumns, s.map_field_valueColumns]

theorem numbered_ofSchema (s : Schema) : (ofSchema s).Numbered := by
  intro role
  have hschema := schema_ofSchema s
  cases role with
  | key => exact congrArg (columnsFrom .key 0) (congrArg Schema.keys hschema).symm
  | value => exact congrArg (columnsFrom .value 0) (congrArg Schema.values hschema).symm

theorem built_ofSchema (s : Schema) : (ofSchema s).Built := by
  refine ⟨[.columns .key s.keyColumns, .columns .value s.valueColumns], ?_⟩
  apply (numbered_ofSchema s).run_eq
  intro role
  cases role with
  | key => exact List.append_nil _
  | value => exact List.append_nil _

end StoredSchema

/-- However calls for single columns and for columns of other schemas are mixed, the columns of a
role are just what calls for this role contribute, in the order of the calls, each with this role
and with its place for an index. So calls for different roles may change places, schemas are equal
if they agree in names and types, and the columns of a schema make it again, whichever role comes
first. -/
theorem building_outcomes :
    (∀ calls role, (StoredSchema.empty.run calls).ofRole role =
      (contributed role calls).mapIdx fun i f => ⟨f, role, i⟩) ∧
    (∀ before a b after, a.role ≠ b.role →
      StoredSchema.empty.run (before ++ a :: b :: after) =
        StoredSchema.empty.run (before ++ b :: a :: after)) ∧
    (∀ s t : StoredSchema, s.Built → t.Built →
      (s = t ↔ ∀ role, s.fields role = t.fields role)) ∧
    ∀ s : StoredSchema, s.Built →
      StoredSchema.empty.run [.columns .key s.keys, .columns .value s.values] = s ∧
      StoredSchema.empty.run [.columns .value s.values, .columns .key s.keys] = s := by
  refine ⟨?_, ?_, ?_, ?_⟩
  · intro calls role
    rw [StoredSchema.numbered_empty.run calls role, StoredSchema.fields_run_empty,
      columnsFrom_eq_mapIdx]
    simp only [Nat.zero_add]
  · intro before a b after h
    exact StoredSchema.run_empty_eq fun role => StoredSchema.contributed_swap h role before after
  · intro s t hs ht
    constructor
    · rintro rfl role
      rfl
    · exact hs.numbered.eq_of_fields_eq ht.numbered
  · intro s hs
    constructor
    · apply hs.numbered.run_eq
      intro role
      cases role <;> exact List.append_nil _
    · apply hs.numbered.run_eq
      intro role
      cases role <;> exact List.append_nil _

/-- Two columns from elsewhere, with a gap before them and one of them a value column, become the
key columns. The value column among the calls may come before or after them. -/
theorem building_outcomes_recycled :
    let found : List Column := [⟨⟨"a", .bigint⟩, .value, 7⟩, ⟨⟨"b", .array .string⟩, .key, 3⟩]
    let s := StoredSchema.empty.run [.columns .key found, .column .value "a" .double]
    s.keys = [⟨⟨"a", .bigint⟩, .key, 0⟩, ⟨⟨"b", .array .string⟩, .key, 1⟩] ∧
      s.values = [⟨⟨"a", .double⟩, .value, 0⟩] ∧
      StoredSchema.empty.run [.column .value "a" .double, .columns .key found] = s ∧
      s.Built ∧ StoredSchema.empty.run [.columns .value s.values, .columns .key s.keys] = s := by
  intro found s
  obtain ⟨hcolumns, hswap, -, hrebuild⟩ := building_outcomes
  have hbuilt : s.Built := ⟨_, rfl⟩
  refine ⟨hcolumns _ .key, hcolumns _ .value, ?_, hbuilt, (hrebuild s hbuilt).2⟩
  exact hswap [] (.column .value "a" .double) (.columns .key found) [] (by decide)

end SqlSchema
