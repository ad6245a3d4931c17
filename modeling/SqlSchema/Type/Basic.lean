/-!
# SQL data types

The types of columns and fields: five simple types, decimals with a precision and a scale, and the
three containers ARRAY, MAP and STRUCT. The fields of a STRUCT are an ordered list, and two types
are equal if they are built in the same way from the same names.
-/

namespace SqlSchema

/-- What a type is apart from its parts. -/
inductive Kind where
  | boolean
  | integer
  | bigint
  | decimal
  | double
  | string
  | array
  | map
  | struct
  deriving DecidableEq

def Kind.label : Kind → String
  | boolean => "BOOLEAN"
  | integer => "INTEGER"
  | bigint => "BIGINT"
  | decimal => "DECIMAL"
  | double => "DOUBLE"
  | string => "STRING"
  | array => "ARRAY"
  | map => "MAP"
  | struct => "STRUCT"

/-- A decimal type: numbers of exactly `precision` digits, `scale` of them after the point. -/
structure DecimalType where
  precision : UInt32
  scale : UInt32
  precision_pos : 1 ≤ precision := by decide
  scale_le : scale ≤ precision := by decide
  deriving DecidableEq

mutual

inductive DataType where
  | boolean
  | integer
  | bigint
  | double
  | string
  | decimal (form : DecimalType)
  | array (item : DataType)
  | map (key value : DataType)
  | struct (fields : List Field)

/-- A named part of a STRUCT, or a name with a type in general. -/
structure Field where
  name : String
  type : DataType

end

/-- The kind of a type. -/
def DataType.kind : DataType → Kind
  | boolean => .boolean
  | integer => .integer
  | bigint => .bigint
  | double => .double
  | string => .string
  | decimal _ => .decimal
  | array _ => .array
  | map _ _ => .map
  | struct _ => .struct

/-! ## Equality -/

mutual

/-- The types are built in the same way. -/
def DataType.same : DataType → DataType → Bool
  | .boolean, .boolean => true
  | .integer, .integer => true
  | .bigint, .bigint => true
  | .double, .double => true
  | .string, .string => true
  | .decimal d, .decimal e => d = e
  | .array s, .array t => s.same t
  | .map k v, .map l w => k.same l && v.same w
  | .struct fs, .struct gs => sameFields fs gs
  | _, _ => false

def Field.same : Field → Field → Bool
  | ⟨m, s⟩, ⟨n, t⟩ => m = n && s.same t

/-- The fields are the same one by one. -/
def sameFields : List Field → List Field → Bool
  | [], [] => true
  | f :: fs, g :: gs => f.same g && sameFields fs gs
  | _, _ => false

end

mutual

theorem DataType.same_refl : (t : DataType) → t.same t = true
  | .boolean | .integer | .bigint | .double | .string => rfl
  | .decimal _ => by simp [DataType.same]
  | .array t => by simp [DataType.same, t.same_refl]
  | .map k v => by simp [DataType.same, k.same_refl, v.same_refl]
  | .struct fs => by simp [DataType.same, sameFields_refl fs]

theorem Field.same_refl : (f : Field) → f.same f = true
  | ⟨_, t⟩ => by simp [Field.same, t.same_refl]

theorem sameFields_refl : (fs : List Field) → sameFields fs fs = true
  | [] => rfl
  | f :: fs => by simp [sameFields, f.same_refl, sameFields_refl fs]

end

mutual

theorem DataType.eq_of_same : (s t : DataType) → s.same t = true → s = t
  | .boolean, t, h => by cases t <;> simp_all [DataType.same]
  | .integer, t, h => by cases t <;> simp_all [DataType.same]
  | .bigint, t, h => by cases t <;> simp_all [DataType.same]
  | .double, t, h => by cases t <;> simp_all [DataType.same]
  | .string, t, h => by cases t <;> simp_all [DataType.same]
  | .decimal _, t, h => by cases t <;> simp_all [DataType.same]
  | .array s, t, h => by
    cases t <;> simp only [DataType.same, Bool.false_eq_true] at h
    rw [s.eq_of_same _ h]
  | .map k v, t, h => by
    cases t <;> simp only [DataType.same, Bool.false_eq_true, Bool.and_eq_true] at h
    rw [k.eq_of_same _ h.1, v.eq_of_same _ h.2]
  | .struct fs, t, h => by
    cases t <;> simp only [DataType.same, Bool.false_eq_true] at h
    rw [eq_of_sameFields fs _ h]

theorem Field.eq_of_same : (f g : Field) → f.same g = true → f = g
  | ⟨_, s⟩, ⟨_, t⟩, h => by
    simp only [Field.same, Bool.and_eq_true, decide_eq_true_eq] at h
    rw [h.1, s.eq_of_same t h.2]

theorem eq_of_sameFields : (fs gs : List Field) → sameFields fs gs = true → fs = gs
  | [], [], _ => rfl
  | [], _ :: _, h => by simp [sameFields] at h
  | _ :: _, [], h => by simp [sameFields] at h
  | f :: fs, g :: gs, h => by
    simp only [sameFields, Bool.and_eq_true] at h
    rw [f.eq_of_same g h.1, eq_of_sameFields fs gs h.2]

end

theorem DataType.same_iff {s t : DataType} : s.same t = true ↔ s = t :=
  ⟨s.eq_of_same t, fun h => h ▸ s.same_refl⟩

instance : DecidableEq DataType := fun _ _ => decidable_of_iff _ DataType.same_iff

instance : DecidableEq Field := fun f g =>
  decidable_of_iff (f.same g = true) ⟨f.eq_of_same g, fun h => h ▸ f.same_refl⟩

end SqlSchema
