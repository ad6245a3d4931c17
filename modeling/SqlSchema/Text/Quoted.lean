import SqlSchema.Text.GraphemeExtend
import SqlSchema.Text.Unprintable

/-!
# Texts and characters between quotes

A text is shown between double quotes and a character between single quotes. What would break the
line, end the literal or not be seen is written as an escape sequence, so the literal shows exactly
what is in it.
-/

namespace SqlSchema.Text

/-- The number lies in one of the closed ranges. -/
def inRanges (ranges : List (Nat × Nat)) (n : Nat) : Bool :=
  ranges.any fun (first, last) => first ≤ n && n ≤ last

/-- A Hangul filler: a letter by its category that stands for an absent letter and shows nothing. -/
def isFiller (c : Char) : Bool :=
  c = '\u115f' || c = '\u1160' || c = '\u3164' || c = '\uffa0'

/--
A halfwidth voiced sound mark: it belongs to the kana before it, as a combining character does, yet
fills a cell of its own and stands well alone.
-/
def isHalfwidthSoundMark (c : Char) : Bool :=
  c = '\uff9e' || c = '\uff9f'

/-- A combining character, which would be drawn on the one before it. -/
def isCombining (c : Char) : Bool :=
  inRanges graphemeExtendRanges c.toNat && !isHalfwidthSoundMark c

/-- A character with a picture of its own. -/
def isPrintable (c : Char) : Bool :=
  !inRanges unprintableRanges c.toNat && !isFiller c

/-- The escape sequence by code point, such as `\u{301}`. -/
def codeEscape (c : Char) : List Char :=
  '\\' :: 'u' :: '\x7b' :: (Nat.toDigits 16 c.toNat ++ ['\x7d'])

/-- One character inside a literal that ends at `quote`. -/
def escapeChar (quote c : Char) : List Char :=
  if c = '\x00' then ['\\', '0']
  else if c = '\t' then ['\\', 't']
  else if c = '\r' then ['\\', 'r']
  else if c = '\n' then ['\\', 'n']
  else if c = '\\' then ['\\', '\\']
  else if c = quote then ['\\', quote]
  else if isCombining c || !isPrintable c then codeEscape c
  else [c]

/-- The text between double quotes. -/
def quotedText (s : String) : String :=
  String.ofList ('"' :: (s.toList.flatMap (escapeChar '"') ++ ['"']))

/-- The character between single quotes. -/
def quotedChar (c : Char) : String :=
  String.ofList ('\'' :: (escapeChar '\'' c ++ ['\'']))

end SqlSchema.Text
