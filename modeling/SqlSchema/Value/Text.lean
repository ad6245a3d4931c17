import SqlSchema.Number.Shortest
import SqlSchema.Value.Basic

/-!
# The text of a value

Texts are written as they are, without quotes; NULL is written `NULL`. Containers write their parts
in order: an array in brackets, a map and a record in braces.
-/

namespace SqlSchema

mutual

def Value.text : Value → String
  | .boolean b => if b then "true" else "false"
  | .integer n => toString n.toInt
  | .bigint n => toString n.toInt
  | .double x => x.text
  | .decimal d => d.text
  | .string s => s
  | .array items => "[" ++ ", ".intercalate (itemTexts items) ++ "]"
  | .map entries => "\x7b" ++ ", ".intercalate (entryTexts entries) ++ "\x7d"
  | .record slots => "Struct\x7b" ++ ",".intercalate (slotTexts slots) ++ "\x7d"

def cellText : Option Value → String
  | none => "NULL"
  | some v => v.text

def itemTexts : List (Option Value) → List String
  | [] => []
  | c :: cs => cellText c :: itemTexts cs

/-- The entries, each as `key=value`. -/
def entryTexts : List (Option Value × Option Value) → List String
  | [] => []
  | (k, v) :: es => (cellText k ++ "=" ++ cellText v) :: entryTexts es

/-- The slots, each as `name=value`. -/
def slotTexts : List (Field × Option Value) → List String
  | [] => []
  | (f, c) :: ss => (f.name ++ "=" ++ cellText c) :: slotTexts ss

end

end SqlSchema
