import SqlSchema.Number.Decimal
import SqlSchema.Number.Double
import SqlSchema.Type.Basic

/-!
# Values

The values that a column or field can hold. SQL NULL is no value of its own: wherever one may be
absent there is an optional value. A record carries its fields, each with what it holds.
-/

namespace SqlSchema

/-- A value other than NULL. -/
inductive Value where
  | boolean (b : Bool)
  | integer (n : Int32)
  | bigint (n : Int64)
  | double (x : Double)
  | decimal (d : Decimal)
  | string (s : String)
  | array (items : List (Option Value))
  | map (entries : List (Option Value × Option Value))
  | record (slots : List (Field × Option Value))

/-- The kind of a value by its own case. -/
def Value.kind : Value → Kind
  | boolean _ => .boolean
  | integer _ => .integer
  | bigint _ => .bigint
  | double _ => .double
  | decimal _ => .decimal
  | string _ => .string
  | array _ => .array
  | map _ => .map
  | record _ => .struct

/-! ## Equality -/

mutual

/-- Equality of values. Doubles compare as numbers, so a value with a double in it that is not a
number differs from itself. Decimals compare with their scales. -/
def Value.equal : Value → Value → Bool
  | .boolean a, .boolean b => a = b
  | .integer a, .integer b => a = b
  | .bigint a, .bigint b => a = b
  | .double a, .double b => a.equal b
  | .decimal a, .decimal b => a = b
  | .string a, .string b => a = b
  | .array as, .array bs => equalItems as bs
  | .map as, .map bs => equalEntries as bs
  | .record as, .record bs => equalSlots as bs
  | _, _ => false

/-- Equality of optional values. NULL equals NULL. -/
def equalCells : Option Value → Option Value → Bool
  | none, none => true
  | some a, some b => a.equal b
  | _, _ => false

def equalItems : List (Option Value) → List (Option Value) → Bool
  | [], [] => true
  | a :: as, b :: bs => equalCells a b && equalItems as bs
  | _, _ => false

def equalEntries : List (Option Value × Option Value) → List (Option Value × Option Value) → Bool
  | [], [] => true
  | (k, v) :: as, (l, w) :: bs => equalCells k l && equalCells v w && equalEntries as bs
  | _, _ => false

/-- The slots have equal fields and equal contents one by one. -/
def equalSlots : List (Field × Option Value) → List (Field × Option Value) → Bool
  | [], [] => true
  | (f, v) :: as, (g, w) :: bs => f = g && equalCells v w && equalSlots as bs
  | _, _ => false

end

end SqlSchema
