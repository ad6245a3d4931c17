import SqlSchema.Value.Check

/-!
# Records

A record starts with every field NULL. A field is set only to what its type accepts, so at any time
the contents of the slots fit their fields.
-/

namespace SqlSchema

/-- Fields with what they hold. -/
structure Record where
  slots : List (Field × Option Value)

namespace Record

/-- The record whose fields are all NULL. -/
def blank (fields : List Field) : Record :=
  ⟨fields.map fun f => (f, none)⟩

def fields (r : Record) : List Field :=
  r.slots.map Prod.fst

def toValue (r : Record) : Value :=
  .record r.slots

/-- Replaces what the field with a name holds. -/
def assign (r : Record) (name : String) (c : Option Value) : Record :=
  ⟨r.slots.map fun (f, old) => (f, if f.name = name then c else old)⟩

/-- Sets a field to what its type accepts by a classifier. -/
def setWith (classify : Classifier) (r : Record) (name : String) (c : Option Value) :
    Logged DataError Record :=
  match findField? r.fields name with
  | none => Logged.fail (.unknownField name)
  | some f => do
    (f.type.checkWith classify c).mapError (.nested (.field name))
    pure (r.assign name c)

def set (r : Record) (name : String) (c : Option Value) : Logged DataError Record :=
  r.setWith Value.kind name c

def get (r : Record) (name : String) : Except DataError (Option Value) :=
  match r.slots.find? fun slot => slot.1.name = name with
  | none => .error (.unknownField name)
  | some slot => .ok slot.2

@[simp] theorem fields_blank (fields : List Field) : (blank fields).fields = fields := by
  simp [blank, Record.fields, Function.comp_def]

@[simp] theorem fields_assign (r : Record) (name : String) (c : Option Value) :
    (r.assign name c).fields = r.fields := by
  simp [assign, Record.fields, Function.comp_def]

end Record

end SqlSchema
