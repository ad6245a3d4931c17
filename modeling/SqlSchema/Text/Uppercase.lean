import SqlSchema.Text.UppercaseTable

/-!
# Upper case

The upper case form of a text, character by character. A character may become several: `ß` becomes
`SS`. On the letters of ASCII this is the usual pairing, stated by `uppercaseChar_ascii`.
-/

namespace SqlSchema.Text

/-- The code point at the place of `n` in the images of the run, if `n` is in it. -/
def UppercaseRun.image? (run : UppercaseRun) (n : Nat) : Option Nat :=
  if run.first ≤ n && n ≤ run.last && (n - run.first) % run.step == 0 then
    some (run.image + (n - run.first))
  else
    none

/-- The upper case form of one character by the tables of Unicode. -/
def uppercaseByTable (c : Char) : List Char :=
  match uppercaseExpansions.lookup c.toNat with
  | some image => image.map Char.ofNat
  | none =>
    match uppercaseRuns.findSome? (·.image? c.toNat) with
    | some image => [Char.ofNat image]
    | none => [c]

/-- The upper case form of one character. No ASCII character needs the tables. -/
def uppercaseChar (c : Char) : List Char :=
  if c.toNat < 128 then [c.toUpper] else uppercaseByTable c

def uppercase (s : String) : String :=
  String.ofList (s.toList.flatMap uppercaseChar)

theorem uppercaseChar_ascii {c : Char} (h : c.toNat < 128) : uppercaseChar c = [c.toUpper] := by
  simp [uppercaseChar, h]

end SqlSchema.Text
