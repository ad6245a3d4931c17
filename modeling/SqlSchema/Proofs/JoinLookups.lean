import SqlSchema.Proofs.Joins

/-!
# Names in a join

The value columns of a join are those of the left source and then those of the right one, so a name
is looked up on the left first. What is found on the right has moved on by as many places as the left
source has value columns. Of the keys only the left one is kept, and its name comes before all
values (`join_lookups`).
-/

namespace SqlSchema

/-- The column, this many places further on among those of its role. -/
def Column.movedBy (c : Column) (n : Nat) : Column :=
  { c with index := c.index + n }

theorem columnsFrom_add (role : Role) (start n : Nat) (fs : List Field) :
    columnsFrom role (start + n) fs = (columnsFrom role start fs).map fun c => c.movedBy n := by
  induction fs generalizing start with
  | nil => rfl
  | cons f fs ih =>
    rw [columnsFrom, columnsFrom, List.map_cons, ← ih, Nat.add_right_comm]
    rfl

namespace StoredSchema

variable {left right joined s : StoredSchema}

/-- The columns of a role that a numbered schema goes on with keep their order and move on. -/
theorem renumbered_append (hl : left.Numbered) (hr : right.Numbered) :
    renumbered .value (left.values ++ right.values) =
      left.values ++ right.values.map fun c => c.movedBy left.values.length := by
  rw [← columnsFrom_map_field_eq_renumbered, List.map_append, columnsFrom_append,
    columnsFrom_add, ← hl.values_eq, ← hr.values_eq, List.length_map]

theorem Numbered.keys_of_join (hl : left.Numbered) {k : Column} (hk : left.keys = [k])
    (h : (left.join right).outcome = .ok joined) : joined.keys = [k] := by
  obtain ⟨k', l, hk', -, -, rfl⟩ := join_eq_ok_iff.1 h
  rw [keys_merged, ← hk, hl.keys_eq, hk']
  rfl

theorem column?_of_keys {k : Column} (hk : s.keys = [k]) (name : String) :
    s.column? name = if k.name = name then some k else s.valueColumn? name := by
  rw [column?, columns, List.find?_append, hk, List.find?_singleton]
  by_cases h : k.name = name
  · simp [h]
  · simp [h, valueColumn?]

theorem valueColumn?_of_join (hl : left.Numbered) (hr : right.Numbered)
    (h : (left.join right).outcome = .ok joined) (name : String) :
    joined.valueColumn? name = (left.valueColumn? name).or
      ((right.valueColumn? name).map fun c => c.movedBy left.values.length) := by
  obtain ⟨k, l, -, -, -, rfl⟩ := join_eq_ok_iff.1 h
  rw [valueColumn?, values_merged, renumbered_append hl hr, List.find?_append, List.find?_map]
  rfl

end StoredSchema

/-- A name in a join is the value column that it is in the left source, or else the one that it is in
the right source, moved on by the number of value columns on the left. The key column of the left
source comes before all of these. So the name of the right source's key column is found only if the
left key or a value column has the same name. -/
theorem join_lookups {left right joined : StoredSchema} (hl : left.Built) (hr : right.Built)
    (h : (left.join right).outcome = .ok joined) :
    (∀ name, joined.valueColumn? name = (left.valueColumn? name).or
      ((right.valueColumn? name).map fun c =>
        { c with index := c.index + left.values.length })) ∧
    ∃ k l, left.keys = [k] ∧ right.keys = [l] ∧
      (∀ name, joined.column? name =
        if k.name = name then some k else joined.valueColumn? name) ∧
      ((joined.column? l.name).isSome ↔ k.name = l.name ∨
        ∃ c ∈ left.values ++ right.values, c.name = l.name) := by
  have hvalue := StoredSchema.valueColumn?_of_join hl.numbered hr.numbered h
  obtain ⟨k, l, hkeys, hkeys', -, -⟩ := StoredSchema.join_eq_ok_iff.1 h
  have hcolumn := StoredSchema.column?_of_keys (hl.numbered.keys_of_join hkeys h)
  have hfound : (joined.valueColumn? l.name).isSome ↔
      ∃ c ∈ left.values ++ right.values, c.name = l.name := by
    rw [hvalue]
    simp [StoredSchema.valueColumn?, or_and_right, exists_or]
  refine ⟨hvalue, k, l, hkeys, hkeys', hcolumn, ?_⟩
  rw [hcolumn, ← hfound]
  by_cases hname : k.name = l.name
  · simp [hname]
  · simp [hname]

/-- Both sources have values `V`, of which the first one on the left is found. A value `K` of the right
source is hidden by the left key, and the right key `R` is lost. -/
theorem join_lookups_hidden :
    let left := StoredSchema.empty.run [.column .key "K" .integer, .column .value "V" .string,
      .column .value "V" .bigint]
    let right := StoredSchema.empty.run [.column .key "R" .integer, .column .value "V" .double,
      .column .value "W" .double, .column .value "K" .boolean]
    left.Built ∧ right.Built ∧ ∃ joined, (left.join right).outcome = .ok joined ∧
      joined.valueColumn? "V" = some ⟨⟨"V", .string⟩, .value, 0⟩ ∧
      joined.valueColumn? "W" = some ⟨⟨"W", .double⟩, .value, 3⟩ ∧
      joined.column? "K" = some ⟨⟨"K", .integer⟩, .key, 0⟩ ∧
      joined.column? "R" = none := by
  intro left right
  have hl : left.Built := ⟨_, rfl⟩
  have hr : right.Built := ⟨_, rfl⟩
  have hjoined : (left.join right).outcome = .ok _ :=
    StoredSchema.join_eq_ok_iff.2 ⟨_, _, rfl, rfl, rfl, rfl⟩
  obtain ⟨hvalue, k, l, hk, -, hcolumn, -⟩ := join_lookups hl hr hjoined
  obtain rfl := List.singleton_inj.1 hk
  refine ⟨hl, hr, _, hjoined, ?_, ?_, ?_, ?_⟩
  · rw [hvalue]
    rfl
  · rw [hvalue]
    rfl
  · rw [hcolumn]
    rfl
  · rw [hcolumn, hvalue]
    rfl

end SqlSchema
