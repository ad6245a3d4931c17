import SqlSchema.Text.Blank
import SqlSchema.Text.Uppercase

/-!
# Log levels

A level says how much is logged: everything up to it. It is written as a name in any case or as a
number, and numbers beyond the last level stand for the last level.
-/

namespace SqlSchema.Log

/-- How much is logged, from nothing to everything. -/
inductive Level where
  | off
  | error
  | warn
  | info
  | debug
  | trace
  deriving DecidableEq

namespace Level

/-- The number of a level, from 0 to 5. -/
def number : Level → Nat
  | off => 0
  | error => 1
  | warn => 2
  | info => 3
  | debug => 4
  | trace => 5

/-- The level with a number. From 5 on it is `trace`. -/
def ofNumber : Nat → Level
  | 0 => off
  | 1 => error
  | 2 => warn
  | 3 => info
  | 4 => debug
  | _ => trace

@[simp] theorem ofNumber_number (l : Level) : ofNumber l.number = l := by
  cases l <;> rfl

theorem number_ofNumber : ∀ n, (ofNumber n).number = min n 5
  | 0 | 1 | 2 | 3 | 4 => rfl
  | n + 5 => (Nat.min_eq_right (Nat.le_add_left 5 n)).symm

theorem number_injective {l m : Level} (h : l.number = m.number) : l = m := by
  rw [← ofNumber_number l, h, ofNumber_number]

instance : LE Level := ⟨fun l m => l.number ≤ m.number⟩

instance (l m : Level) : Decidable (l ≤ m) :=
  inferInstanceAs (Decidable (l.number ≤ m.number))

/-- The name shown in a log line. `off` has none. -/
def label : Level → String
  | off => ""
  | error => "ERROR"
  | warn => "WARN"
  | info => "INFO"
  | debug => "DEBUG"
  | trace => "TRACE"

/-- The terminal code that starts the colour of a level. -/
def colour : Level → String
  | off => ""
  | error => "\x1b[31m"
  | warn => "\x1b[33m"
  | info => "\x1b[32m"
  | debug => "\x1b[34m"
  | trace => "\x1b[90m"

def tag (l : Level) : String :=
  match l with
  | off => ""
  | _ => l.colour ++ l.label ++ "\x1b[0m"

/-- The number from 0 to 255 that the digits write, with an optional plus sign. Leading zeros are
allowed. -/
def readByte? (cs : List Char) : Option Nat :=
  let digits := match cs with
    | '+' :: rest => rest
    | _ => cs
  if digits.isEmpty || !digits.all Char.isDigit then none
  else
    let n := Nat.ofDigitChars 10 digits 0
    if n ≤ 255 then some n else none

/-- The level with a name in upper case. -/
def named? (name : String) : Option Level :=
  if name = "OFF" then some off
  else if name = "ERROR" then some error
  else if name = "WARN" then some warn
  else if name = "INFO" then some info
  else if name = "DEBUG" then some debug
  else if name = "TRACE" then some trace
  else none

/-- The level that a text names, by number or by name, with blanks around it and in any case. -/
def parse? (s : String) : Option Level :=
  match readByte? (Text.trim s).toList with
  | some n => some (ofNumber n)
  | none => named? (Text.uppercase (Text.trim s))

end Level

end SqlSchema.Log
