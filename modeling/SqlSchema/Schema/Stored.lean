import SqlSchema.Schema.Basic

/-!
# Stored schemas

A schema is stored as its columns, of which each keeps its own role and index. A column that joins
a schema gets the role and the index that it has there; what it had elsewhere is not looked at.
`StoredSchema.schema` is the schema that is meant.
-/

namespace SqlSchema

/-- Key columns and value columns, each with its own role and index. -/
structure StoredSchema where
  keys : List Column := []
  values : List Column := []
  deriving DecidableEq

namespace StoredSchema

def empty : StoredSchema := {}

def ofRole (s : StoredSchema) : Role → List Column
  | .key => s.keys
  | .value => s.values

/-- All columns, those of the key first. -/
def columns (s : StoredSchema) : List Column :=
  s.keys ++ s.values

/-- Adds a column with a name and a type at the end of those of a role. -/
def add (s : StoredSchema) (role : Role) (name : String) (type : DataType) : StoredSchema :=
  match role with
  | .key => { s with keys := s.keys ++ [⟨⟨name, type⟩, .key, s.keys.length⟩] }
  | .value => { s with values := s.values ++ [⟨⟨name, type⟩, .value, s.values.length⟩] }

/-- Adds columns of any schema, in order, as columns of one role. -/
def addColumns (s : StoredSchema) (role : Role) (cs : List Column) : StoredSchema :=
  cs.foldl (fun s c => s.add role c.name c.type) s

/-- The first value column with a name. -/
def valueColumn? (s : StoredSchema) (name : String) : Option Column :=
  s.values.find? fun c => c.name = name

/-- The first column with a name, where key columns come first. -/
def column? (s : StoredSchema) (name : String) : Option Column :=
  s.columns.find? fun c => c.name = name

/-- The text of a schema: its columns with commas between them, those of the key first. -/
def render (reserved : ReservedWords) (s : StoredSchema) : String :=
  ", ".intercalate (s.columns.map (Column.render reserved))

/-- The text of a schema with no reserved words. -/
def text (s : StoredSchema) : String :=
  s.render .none

/-- The schema that is stored. -/
def schema (s : StoredSchema) : Schema :=
  ⟨s.keys.map Column.field, s.values.map Column.field⟩

/-- A schema as it is stored. -/
def ofSchema (s : Schema) : StoredSchema :=
  ⟨s.keyColumns, s.valueColumns⟩

end StoredSchema

end SqlSchema
