import SqlSchema.Text.Form
import SqlSchema.Type.Struct

/-!
# The structure of types

Types and type errors as structural texts, for the log of the shell.
-/

namespace SqlSchema

open Text

def DecimalType.form (d : DecimalType) : Form :=
  .record "SqlDecimal" [("precision", .nat d.precision.toNat), ("scale", .nat d.scale.toNat)]

mutual

def DataType.form : DataType → Form
  | .boolean => .word "Boolean"
  | .integer => .word "Integer"
  | .bigint => .word "Bigint"
  | .double => .word "Double"
  | .string => .word "String"
  | .decimal d => .tuple "Decimal" [d.form]
  | .array item => .tuple "Array" [item.form]
  | .map key value => .tuple "Map" [key.form, value.form]
  | .struct fields => .tuple "Struct" [.record "SqlStruct" [("fields", .list (fieldForms fields))]]

def Field.form : Field → Form
  | ⟨name, type⟩ => .record "Field" [("name", .text name), ("ty", type.form)]

def fieldForms : List Field → List Form
  | [] => []
  | f :: fs => f.form :: fieldForms fs

end

def TypeError.form : TypeError → Form
  | duplicateField existing conflicting =>
    .record "DuplicateField" [("existing", existing.form), ("conflicting", conflicting.form)]
  | invalidDecimal precision scale =>
    .record "InvalidDecimal"
      [("precision", .nat precision.toNat), ("scale", .nat scale.toNat)]

end SqlSchema
