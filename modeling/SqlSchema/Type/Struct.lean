import SqlSchema.Log.Logged
import SqlSchema.Type.Text

/-!
# Building types

Two things can go wrong when a type is put together: a decimal with impossible bounds and a STRUCT
with two fields of one name. A `FieldList` collects the fields of a STRUCT and never holds a name
twice, so what it builds is right by construction.
-/

namespace SqlSchema

open Log

/-- Why a type cannot be built. -/
inductive TypeError where
  /-- A field has the name of an earlier one. -/
  | duplicateField (existing conflicting : Field)
  /-- A decimal without digits, or with more places after the point than digits. -/
  | invalidDecimal (precision scale : UInt32)
  deriving DecidableEq

def TypeError.message : TypeError → String
  | duplicateField existing conflicting =>
    "Duplicate field names found in STRUCT: '" ++ existing.text ++ "' and '" ++ conflicting.text ++
      "'"
  | invalidDecimal precision scale =>
    (if precision < 1 then "DECIMAL precision must be >= 1"
      else "DECIMAL scale must be between 0 and precision") ++
      ": DECIMAL(" ++ toString precision.toNat ++ ", " ++ toString scale.toNat ++ ")"

/-- The decimal type with the given bounds. -/
def DecimalType.ofBounds (precision scale : UInt32) : Except TypeError DecimalType :=
  if h : 1 ≤ precision ∧ scale ≤ precision then
    .ok ⟨precision, scale, h.1, h.2⟩
  else
    .error (.invalidDecimal precision scale)

/-- The first field with a name. -/
def findField? (fields : List Field) (name : String) : Option Field :=
  fields.find? fun f => f.name = name

/-- The place of the first field with a name. -/
def fieldIndex? (fields : List Field) (name : String) : Option Nat :=
  fields.findIdx? fun f => f.name = name

/-- What is logged about a field that is refused. -/
def refusedText (existing f : Field) : String :=
  "rejecting duplicate field '" ++ f.text ++ "' (already have '" ++ existing.text ++ "')"

/-- What is logged about a STRUCT with that many fields. -/
def builtText (count : Nat) : String :=
  "built STRUCT with " ++ toString count ++ " field(s)"

/-- Fields with distinct names, in the order in which they were added. -/
structure FieldList where
  fields : List Field := []
  distinct : (fields.map Field.name).Nodup := by simp

namespace FieldList

theorem distinct_append {fields : List Field} {f : Field} (hd : (fields.map Field.name).Nodup)
    (hf : findField? fields f.name = none) : ((fields ++ [f]).map Field.name).Nodup := by
  simp only [findField?, List.find?_eq_none, decide_eq_true_eq] at hf
  simp only [List.map_append, List.map_cons, List.map_nil, List.nodup_append, List.nodup_cons,
    List.not_mem_nil, not_false_eq_true, List.nodup_nil, and_self, true_and, List.mem_map,
    List.mem_singleton, forall_exists_index, and_imp]
  exact ⟨hd, fun _ g hg hn b hb hne => hf g hg (by rw [hn, hne, hb])⟩

/-- Adds a field, or refuses it if its name is taken. -/
def add (l : FieldList) (f : Field) : Logged TypeError FieldList :=
  match h : findField? l.fields f.name with
  | some existing => do
    Logged.note .debug .struct (refusedText existing f)
    Logged.fail (.duplicateField existing f)
  | none => pure ⟨l.fields ++ [f], distinct_append l.distinct h⟩

theorem outcome_add_of_fresh {l : FieldList} {f : Field} (h : findField? l.fields f.name = none) :
    (l.add f).outcome = .ok ⟨l.fields ++ [f], distinct_append l.distinct h⟩ := by
  unfold add
  split
  · next existing he =>
    rw [h] at he
    cases he
  · rfl

theorem outcome_add_of_taken {l : FieldList} {f existing : Field}
    (h : findField? l.fields f.name = some existing) :
    (l.add f).outcome = .error (.duplicateField existing f) := by
  unfold add
  split
  · next other ho =>
    rw [h] at ho
    cases ho
    rfl
  · next hn =>
    rw [h] at hn
    cases hn

/-- Adds fields up to the first that is refused. -/
def addAll (l : FieldList) (fs : List Field) : Logged TypeError FieldList :=
  fs.foldlM add l

def build {ε : Type} (l : FieldList) : Logged ε DataType := do
  Logged.note .trace .struct (builtText l.fields.length)
  pure (.struct l.fields)

end FieldList

end SqlSchema
