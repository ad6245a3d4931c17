import SqlSchema.Log.Logged
import SqlSchema.Schema.Stored
import SqlSchema.Type.Structure

/-!
# Joining two sources

Two sources join on their keys. Each must have a single key column, and the two key columns must
have equal types. The result keeps the key of the left source and has the value columns of both,
left before right. All of these are added one by one to a schema without columns, so they get the
roles and indexes that they have there.
-/

namespace SqlSchema

open Log

inductive Side where
  | left
  | right
  deriving DecidableEq

def Side.label : Side → String
  | left => "Left"
  | right => "Right"

/-- Why two sources cannot be joined. -/
inductive JoinError where
  /-- The keys have different types. -/
  | keyTypeMismatch (left right : DataType)
  /-- A source has no key column or several. -/
  | keyCount (side : Side) (count : Nat)
  deriving DecidableEq

namespace JoinError

def message : JoinError → String
  | keyTypeMismatch left right =>
    "Invalid join. Key types differ: " ++ left.text ++ " vs " ++ right.text
  | keyCount side count =>
    "Invalid join. " ++ side.label ++ " source must have exactly one key column, found " ++
      toString count

/-- The fault lies in the query that asks for the join. -/
def isUserFault : JoinError → Bool
  | keyTypeMismatch _ _ => true
  | keyCount _ _ => false

open Text in
def form : JoinError → Form
  | keyTypeMismatch left right =>
    .record "KeyTypeMismatch" [("left", left.form), ("right", right.form)]
  | keyCount side count =>
    .record "KeyCount" [("side", .word side.label), ("count", .nat count)]

end JoinError

namespace StoredSchema

/-- The only key column of a source. -/
def soleKey (side : Side) (s : StoredSchema) : Except JoinError Column :=
  match s.keys with
  | [key] => .ok key
  | keys => .error (.keyCount side keys.length)

/-- A key column with the value columns of two sources behind each other. -/
def merged (key : Column) (left right : StoredSchema) : StoredSchema :=
  ((empty.add .key key.name key.type).addColumns .value left.values).addColumns .value right.values

/-- The schema of a join, without a scope around it in the log. -/
def joinUnscoped (left right : StoredSchema) : Logged JoinError StoredSchema := do
  let leftKey ← Logged.ofExcept (left.soleKey .left)
  let rightKey ← Logged.ofExcept (right.soleKey .right)
  if leftKey.type ≠ rightKey.type then
    Logged.fail (.keyTypeMismatch leftKey.type rightKey.type)
  else
    Logged.note .trace .join ("left:  " ++ left.text)
    Logged.note .trace .join ("right: " ++ right.text)
    let joined := merged leftKey left right
    Logged.note .debug .join ("joined schema: " ++ joined.text)
    pure joined

/-- The schema of the join of two sources. -/
def join (left right : StoredSchema) : Logged JoinError StoredSchema :=
  ((joinUnscoped left right).within .trace .join "create join params").onError .warn .join
    JoinError.message

end StoredSchema

/-- The schema of the join of two sources, by names and types. -/
def Schema.join (left right : Schema) : Logged JoinError Schema :=
  StoredSchema.schema <$> (StoredSchema.ofSchema left).join (StoredSchema.ofSchema right)

end SqlSchema
