import SqlSchema.Name.Reserved
import SqlSchema.Type.Basic

/-!
# The text of a type

A type is written as in a column definition, with keywords in upper case and one space after each
comma. Names are quoted where the reserved words ask for it. A STRUCT without fields has a space
between its brackets.
-/

namespace SqlSchema

/-- The text of a decimal type, such as `DECIMAL(9, 2)`. -/
def DecimalType.text (d : DecimalType) : String :=
  "DECIMAL(" ++ toString d.precision.toNat ++ ", " ++ toString d.scale.toNat ++ ")"

mutual

def DataType.render (reserved : ReservedWords) : DataType → String
  | .boolean => Kind.label .boolean
  | .integer => Kind.label .integer
  | .bigint => Kind.label .bigint
  | .double => Kind.label .double
  | .string => Kind.label .string
  | .decimal form => form.text
  | .array item => "ARRAY<" ++ item.render reserved ++ ">"
  | .map key value => "MAP<" ++ key.render reserved ++ ", " ++ value.render reserved ++ ">"
  | .struct [] => "STRUCT< >"
  | .struct (f :: fs) =>
    "STRUCT<" ++ ", ".intercalate (f.render reserved :: renderFields reserved fs) ++ ">"

/-- The text of a field: its name, then its type. -/
def Field.render (reserved : ReservedWords) : Field → String
  | ⟨name, type⟩ => reserved.escape name ++ " " ++ type.render reserved

def renderFields (reserved : ReservedWords) : List Field → List String
  | [] => []
  | f :: fs => f.render reserved :: renderFields reserved fs

end

/-- The text of a type with no reserved words. -/
def DataType.text (t : DataType) : String :=
  t.render .none

def Field.text (f : Field) : String :=
  f.render .none

/-! ## The characters of texts -/

theorem toList_intercalate_cons_cons (s t : String) (ss : List String) :
    (", ".intercalate (s :: t :: ss)).toList =
      s.toList ++ ',' :: ' ' :: (", ".intercalate (t :: ss)).toList := by
  simp [String.intercalate_cons_cons]

theorem DecimalType.toList_text (d : DecimalType) :
    d.text.toList = "DECIMAL".toList ++ '(' :: ((toString d.precision.toNat).toList ++
      ',' :: ' ' :: ((toString d.scale.toNat).toList ++ [')'])) := by
  simp [DecimalType.text]

theorem DataType.toList_render_array (reserved : ReservedWords) (item : DataType) :
    ((DataType.array item).render reserved).toList =
      "ARRAY".toList ++ '<' :: ((item.render reserved).toList ++ ['>']) := by
  simp [DataType.render]

theorem DataType.toList_render_map (reserved : ReservedWords) (key value : DataType) :
    ((DataType.map key value).render reserved).toList =
      "MAP".toList ++ '<' :: ((key.render reserved).toList ++
        ',' :: ' ' :: ((value.render reserved).toList ++ ['>'])) := by
  simp [DataType.render]

theorem DataType.toList_render_struct_nil (reserved : ReservedWords) :
    ((DataType.struct []).render reserved).toList = "STRUCT".toList ++ '<' :: ' ' :: ['>'] := by
  simp [DataType.render]

theorem DataType.toList_render_struct_cons (reserved : ReservedWords) (f : Field)
    (fs : List Field) : ((DataType.struct (f :: fs)).render reserved).toList = "STRUCT".toList ++
      '<' :: ((", ".intercalate (renderFields reserved (f :: fs))).toList ++ ['>']) := by
  simp [DataType.render, renderFields]

theorem Field.toList_render (reserved : ReservedWords) (f : Field) :
    (f.render reserved).toList =
      (reserved.escape f.name).toList ++ ' ' :: (f.type.render reserved).toList := by
  obtain ⟨name, type⟩ := f
  simp [Field.render]

end SqlSchema
