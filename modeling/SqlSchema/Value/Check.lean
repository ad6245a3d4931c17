import SqlSchema.Type.Struct
import SqlSchema.Value.Text

/-!
# Checking values against types

NULL fits every type. A simple type accepts a value by its kind, which a classifier tells. A decimal
type asks for its exact number of digits and scale, ARRAY and MAP check their parts from left to
right and stop at the first that does not fit, and STRUCT asks for a record with just its fields;
what the slots of a record hold was checked when they were set.

A mismatch tells what was expected and what was found, and each container around it adds its place.
-/

namespace SqlSchema

open Log

/-- Tells the kind of a value. -/
abbrev Classifier := Value → Kind

/-- What a check expected or found. -/
inductive Shape where
  | kind (kind : Kind)
  | type (type : DataType)
  | precision (digits : Nat)
  | scale (places : UInt32)
  deriving DecidableEq

def Shape.text : Shape → String
  | kind k => k.label
  | type t => t.text
  | precision digits => "precision " ++ toString digits
  | scale places => "scale " ++ toString places.toNat

/-- The place of a part in the value around it. -/
inductive Place where
  /-- An element of an array; the first has index zero. -/
  | element (index : Nat)
  | mapKey
  /-- The value of the map entry with this key. -/
  | mapValue (key : Option Value)
  | field (name : String)

/-- The words for a place. Elements are counted from one. -/
def Place.text : Place → String
  | element index => "ARRAY element " ++ toString (index + 1)
  | mapKey => "MAP key"
  | mapValue key => "MAP value for key '" ++ cellText key ++ "'"
  | field name => "STRUCT field '" ++ name ++ "'"

/-- Why a value does not fit. -/
inductive DataError where
  | mismatch (expected found : Shape)
  | unknownField (name : String)
  /-- A part does not fit. -/
  | nested (place : Place) (cause : DataError)

/-- The words of a data error: the places from the outside in, then the cause. -/
def DataError.message : DataError → String
  | mismatch expected found => "Expected " ++ expected.text ++ ", got " ++ found.text
  | unknownField name => "Unknown field: " ++ name
  | nested place cause => place.text ++ ": " ++ cause.message

/-- The outcome of a check. -/
abbrev Check := Logged DataError Unit

/-- The check fails since something else was expected. -/
def Check.mismatch (expected found : Shape) : Check :=
  Logged.fail (.mismatch expected found)

/-- NULL passes every check. -/
def checkCell (check : Value → Check) : Option Value → Check
  | none => pure ()
  | some v => check v

/-- Checks elements in order; the first of them has the given index. -/
def checkItems (check : Option Value → Check) : Nat → List (Option Value) → Check
  | _, [] => pure ()
  | index, c :: cs => do
    (check c).mapError (.nested (.element index))
    checkItems check (index + 1) cs

/-- Checks entries in order, of each the key first. -/
def checkEntries (checkKey checkValue : Option Value → Check) :
    List (Option Value × Option Value) → Check
  | [] => pure ()
  | (k, v) :: es => do
    (checkKey k).mapError (.nested .mapKey)
    (checkValue v).mapError (.nested (.mapValue k))
    checkEntries checkKey checkValue es

/-- A decimal fits if it has just as many digits as the type says, and then the same scale. -/
def DecimalType.check (d : DecimalType) (x : Decimal) : Check :=
  if x.precision ≠ d.precision.toNat then .mismatch (.type (.decimal d)) (.precision x.precision)
  else if x.scale ≠ d.scale then .mismatch (.type (.decimal d)) (.scale x.scale)
  else pure ()

/-- A record fits if it has just these fields. -/
def checkFields (fields found : List Field) : Check :=
  if found = fields then pure () else .mismatch (.type (.struct fields)) (.type (.struct found))

/-- Checks a value other than NULL. Each type on the way to a mismatch logs its refusal, the
innermost first. -/
def DataType.checkValue (classify : Classifier) (t : DataType) (v : Value) : Check :=
  let outcome : Check := match t with
    | .decimal d => match v with
      | .decimal x => d.check x
      | _ => .mismatch (.kind .decimal) (.kind (classify v))
    | .array item => match v with
      | .array items => checkItems (checkCell (item.checkValue classify)) 0 items
      | _ => .mismatch (.kind .array) (.kind (classify v))
    | .map key value => match v with
      | .map entries =>
        checkEntries (checkCell (key.checkValue classify)) (checkCell (value.checkValue classify))
          entries
      | _ => .mismatch (.kind .map) (.kind (classify v))
    | .struct fields => match v with
      | .record slots => checkFields fields (slots.map Prod.fst)
      | _ => .mismatch (.kind .struct) (.kind (classify v))
    | simple =>
      if classify v = simple.kind then pure ()
      else .mismatch (.kind simple.kind) (.kind (classify v))
  outcome.onError .trace .types fun e => "value rejected by " ++ t.text ++ ": " ++ e.message

/-- Checks an optional value against a type, with a classifier that tells the kinds of values. -/
def DataType.checkWith (classify : Classifier) (t : DataType) (c : Option Value) : Check :=
  checkCell (t.checkValue classify) c

/-- Checks an optional value against a type. Values have the kinds of their cases. -/
def DataType.check (t : DataType) (c : Option Value) : Check :=
  t.checkWith Value.kind c

end SqlSchema
