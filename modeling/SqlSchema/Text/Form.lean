import SqlSchema.Text.Quoted

/-!
# Structural texts

A value of a type with named parts can be shown by its structure on one line: the name of the
case, then its parts. The log of the shell shows commands, errors and settings in this way.
-/

namespace SqlSchema.Text

/-- The structure of a value, ready to be written on one line. -/
inductive Form where
  /-- A bare word or a number. -/
  | word (text : String)
  /-- The parts in brackets, such as `[A, B]`. -/
  | list (items : List Form)
  /-- The parts in braces, such as `{A, B}`. -/
  | set (items : List Form)
  /-- A case with parts known by their place, such as `Map(String, Double)`. -/
  | tuple (name : String) (items : List Form)
  /-- A case with named parts, such as `Join { left: "", right: "" }`. -/
  | record (name : String) (parts : List (String × Form))

mutual

def Form.render : Form → String
  | .word text => text
  | .list items => "[" ++ ", ".intercalate (renderAll items) ++ "]"
  | .set items => "\x7b" ++ ", ".intercalate (renderAll items) ++ "\x7d"
  | .tuple name items => name ++ "(" ++ ", ".intercalate (renderAll items) ++ ")"
  | .record name parts => name ++ " \x7b " ++ ", ".intercalate (renderParts parts) ++ " \x7d"

def renderAll : List Form → List String
  | [] => []
  | form :: forms => form.render :: renderAll forms

/-- Each named part as `name: structure`. -/
def renderParts : List (String × Form) → List String
  | [] => []
  | (name, form) :: parts => (name ++ ": " ++ form.render) :: renderParts parts

end

def Form.text (s : String) : Form :=
  .word (quotedText s)

def Form.nat (n : Nat) : Form :=
  .word (toString n)

end SqlSchema.Text
