import SqlSchema.Type.Text

/-!
# Schemas

The schema of a source: its key columns and its value columns, each in order. The position of a
column among those of its role is its index, so indexes always count from zero without gaps. Names
may repeat.
-/

namespace SqlSchema

/-- What a column is for. -/
inductive Role where
  | key
  | value
  deriving DecidableEq

def Role.label : Role → String
  | key => "KEY"
  | value => "VALUE"

/-- A column: a name with a type, its role and its index among the columns of that role. -/
structure Column where
  field : Field
  role : Role
  index : Nat
  deriving DecidableEq

namespace Column

def name (c : Column) : String :=
  c.field.name

def type (c : Column) : DataType :=
  c.field.type

theorem mk_name_type (c : Column) : (⟨c.name, c.type⟩ : Field) = c.field := by
  obtain ⟨⟨name, type⟩, role, index⟩ := c
  rfl

/-- The column is part of the key. -/
def isKey (c : Column) : Bool :=
  c.role = .key

/-- The text of a column: name and type, and `KEY` after a key column. -/
def render (reserved : ReservedWords) (c : Column) : String :=
  c.field.render reserved ++ if c.isKey then " KEY" else ""

/-- The text of a column with no reserved words. -/
def text (c : Column) : String :=
  c.render .none

theorem toList_render (reserved : ReservedWords) (c : Column) :
    (c.render reserved).toList = (reserved.escape c.name).toList ++ ' ' ::
      ((c.type.render reserved).toList ++ (if c.role = .key then " KEY" else "").toList) := by
  rw [render, String.toList_append, Field.toList_render, List.append_assoc, List.cons_append]
  simp only [isKey, decide_eq_true_eq]
  rfl

end Column

/-- Key columns and value columns, by name and type. -/
structure Schema where
  keys : List Field := []
  values : List Field := []
  deriving DecidableEq

/-- Columns of one role, numbered from `start`. -/
def columnsFrom (role : Role) : Nat → List Field → List Column
  | _, [] => []
  | start, f :: fs => ⟨f, role, start⟩ :: columnsFrom role (start + 1) fs

namespace Schema

def keyColumns (s : Schema) : List Column :=
  columnsFrom .key 0 s.keys

def valueColumns (s : Schema) : List Column :=
  columnsFrom .value 0 s.values

/-- All columns, those of the key first. -/
def columns (s : Schema) : List Column :=
  s.keyColumns ++ s.valueColumns

/-- Adds a column at the end of those of its role. -/
def add (s : Schema) (role : Role) (f : Field) : Schema :=
  match role with
  | .key => { s with keys := s.keys ++ [f] }
  | .value => { s with values := s.values ++ [f] }

/-- Adds columns of any schema, in order, as columns of one role. -/
def addColumns (s : Schema) (role : Role) (cs : List Column) : Schema :=
  cs.foldl (fun s c => s.add role c.field) s

@[simp] theorem add_key (s : Schema) (f : Field) :
    s.add .key f = { s with keys := s.keys ++ [f] } := rfl

@[simp] theorem add_value (s : Schema) (f : Field) :
    s.add .value f = { s with values := s.values ++ [f] } := rfl

theorem addColumns_value (s : Schema) (cs : List Column) :
    s.addColumns .value cs = { s with values := s.values ++ cs.map Column.field } := by
  unfold addColumns
  induction cs generalizing s with
  | nil => simp
  | cons c cs ih =>
    rw [List.foldl_cons, ih]
    simp

/-- The text of a schema: its columns with commas between them, those of the key first. -/
def render (reserved : ReservedWords) (s : Schema) : String :=
  ", ".intercalate (s.columns.map (Column.render reserved))

/-- The text of a schema with no reserved words. -/
def text (s : Schema) : String :=
  s.render .none

end Schema

theorem columnsFrom_append (role : Role) (start : Nat) (fs gs : List Field) :
    columnsFrom role start (fs ++ gs) =
      columnsFrom role start fs ++ columnsFrom role (start + fs.length) gs := by
  induction fs generalizing start with
  | nil => rfl
  | cons f fs ih => simp [columnsFrom, ih, Nat.add_assoc, Nat.add_comm 1]

theorem map_field_columnsFrom (role : Role) (start : Nat) (fs : List Field) :
    (columnsFrom role start fs).map Column.field = fs := by
  induction fs generalizing start with
  | nil => rfl
  | cons f fs ih => simp [columnsFrom, ih]

end SqlSchema
