import SqlSchema.Type.Index
import SqlSchema.Value.Record

/-!
# Stored records

A record is stored as its fields with their index and a list of contents, one for each field. What a
field holds is found by the place that the index gives for its name. `StoredRecord.record` is the
record that is meant.
-/

namespace SqlSchema

/-- Fields with their index, and what each of them holds. -/
structure StoredRecord where
  schema : IndexedFields
  contents : List (Option Value)
  length_contents : contents.length = schema.fields.length

namespace StoredRecord

/-- The record whose fields are all NULL. -/
def blank (schema : IndexedFields) : StoredRecord where
  schema := schema
  contents := List.replicate schema.fields.length none
  length_contents := List.length_replicate

/-- What stands at a place. -/
def content (r : StoredRecord) (i : Fin r.schema.fields.length) : Option Value :=
  r.contents.get (i.cast r.length_contents.symm)

/-- Replaces what stands at a place. -/
def put (r : StoredRecord) (i : Fin r.schema.fields.length) (c : Option Value) : StoredRecord where
  schema := r.schema
  contents := r.contents.set i c
  length_contents := by rw [List.length_set, r.length_contents]

/-- Sets a field to what its type accepts by a classifier. -/
def setWith (classify : Classifier) (r : StoredRecord) (name : String) (c : Option Value) :
    Logged DataError StoredRecord :=
  match r.schema.place? name with
  | none => Logged.fail (.unknownField name)
  | some i => do
    ((r.schema.fields.get i).type.checkWith classify c).mapError (.nested (.field name))
    pure (r.put i c)

def set (r : StoredRecord) (name : String) (c : Option Value) : Logged DataError StoredRecord :=
  r.setWith Value.kind name c

def get (r : StoredRecord) (name : String) : Except DataError (Option Value) :=
  match r.schema.place? name with
  | none => .error (.unknownField name)
  | some i => .ok (r.content i)

/-- Each field with what it holds. -/
def record (r : StoredRecord) : Record :=
  ⟨r.schema.fields.zip r.contents⟩

def toValue (r : StoredRecord) : Value :=
  r.record.toValue

@[simp] theorem fields_record (r : StoredRecord) : r.record.fields = r.schema.fields := by
  unfold record Record.fields
  exact List.map_fst_zip (Nat.le_of_eq r.length_contents.symm)

end StoredRecord

end SqlSchema
