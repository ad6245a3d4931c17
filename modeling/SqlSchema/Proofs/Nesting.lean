import SqlSchema.Type.Struct

/-!
# Types inside types

How deep a type nests, and which types can be built: those whose structs never repeat the name of a
field. A simple type, a decimal type and the struct without fields are one level deep.
-/

namespace SqlSchema

mutual

/-- The number of levels of a type. -/
def DataType.nesting : DataType → Nat
  | .array item => item.nesting + 1
  | .map key value => max key.nesting value.nesting + 1
  | .struct fields => fieldsNesting fields + 1
  | _ => 1

/-- The number of levels below a struct with these fields. -/
def fieldsNesting : List Field → Nat
  | [] => 0
  | ⟨_, type⟩ :: fs => max type.nesting (fieldsNesting fs)

end

mutual

/-- Wherever there are fields in the type, their names are distinct. -/
def DataType.WellFormed : DataType → Prop
  | .array item => item.WellFormed
  | .map key value => key.WellFormed ∧ value.WellFormed
  | .struct fields => (fields.map Field.name).Nodup ∧ AllWellFormed fields
  | _ => True

def AllWellFormed : List Field → Prop
  | [] => True
  | ⟨_, type⟩ :: fs => type.WellFormed ∧ AllWellFormed fs

end

theorem DecimalType.eq_of_bounds_eq {d e : DecimalType} (hp : d.precision = e.precision)
    (hs : d.scale = e.scale) : d = e := by
  cases d
  cases e
  cases hp
  cases hs
  rfl

def FieldList.empty : FieldList :=
  ⟨[], List.nodup_nil⟩

theorem FieldList.eq_of_fields_eq {l l' : FieldList} (h : l.fields = l'.fields) : l = l' := by
  cases l
  cases l'
  cases h
  rfl

theorem findField?_eq_none_iff {fields : List Field} {name : String} :
    findField? fields name = none ↔ name ∉ fields.map Field.name := by
  simp [findField?]

theorem FieldList.exists_add {l : FieldList} {f : Field}
    (h : ((l.fields ++ [f]).map Field.name).Nodup) :
    ∃ l' : FieldList, (l.add f).outcome = .ok l' ∧ l'.fields = l.fields ++ [f] := by
  have hf : findField? l.fields f.name = none := by
    rw [findField?_eq_none_iff]
    rw [List.map_append, List.nodup_append] at h
    intro hm
    exact h.2.2 _ hm _ (by simp) rfl
  exact ⟨_, outcome_add_of_fresh hf, rfl⟩

theorem FieldList.fields_of_add {l l' : FieldList} {f : Field}
    (h : (l.add f).outcome = .ok l') : l'.fields = l.fields ++ [f] := by
  cases hf : findField? l.fields f.name with
  | none =>
    rw [outcome_add_of_fresh hf] at h
    rw [← Except.ok.inj h]
  | some existing =>
    rw [outcome_add_of_taken hf] at h
    cases h

theorem FieldList.add_eq_error_iff {l : FieldList} {f : Field} {c : TypeError} :
    (l.add f).outcome = .error c ↔
      ∃ existing, findField? l.fields f.name = some existing ∧ c = .duplicateField existing f := by
  cases hf : findField? l.fields f.name with
  | none => simp [outcome_add_of_fresh hf]
  | some existing =>
    rw [outcome_add_of_taken hf]
    simp [eq_comm]

end SqlSchema
