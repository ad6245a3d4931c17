import SqlSchema.Number.Positional

/-!
# Double precision numbers

A double is its 64 bits: sign, eleven bits of exponent, fifty-two bits of fraction. Equality of
numbers is not equality of bits: the two zeros are equal, and what is not a number equals nothing.
-/

namespace SqlSchema

/-- A double precision number, by its bits. -/
structure Double where
  bits : UInt64
  deriving DecidableEq

namespace Double

def negative (x : Double) : Bool :=
  Nat.pow 2 63 ≤ x.bits.toNat

/-- The eleven bits of the exponent. -/
def exponent (x : Double) : Nat :=
  x.bits.toNat / Nat.pow 2 52 % Nat.pow 2 11

/-- The fifty-two bits of the fraction. -/
def fraction (x : Double) : Nat :=
  x.bits.toNat % Nat.pow 2 52

/-- The bits stand for no number. -/
def isNaN (x : Double) : Bool :=
  x.exponent = 2047 && x.fraction ≠ 0

def isInfinite (x : Double) : Bool :=
  x.exponent = 2047 && x.fraction = 0

def isZero (x : Double) : Bool :=
  x.exponent = 0 && x.fraction = 0

/-- Equality of the numbers. -/
def equal (x y : Double) : Bool :=
  !x.isNaN && !y.isNaN && (x.bits = y.bits || x.isZero && y.isZero)

/-- The significand `m` of a finite double, whose magnitude is `m · 2^(scale - 1074)`. -/
def significand (x : Double) : Nat :=
  if x.exponent = 0 then x.fraction else Nat.pow 2 52 + x.fraction

/-- The binary scale of a finite double, whose magnitude is `significand · 2^(scale - 1074)`. -/
def scale (x : Double) : Nat :=
  x.exponent - 1

theorem equal_comm (x y : Double) : x.equal y = y.equal x := by
  simp only [equal, Bool.and_comm, Bool.and_assoc, eq_comm (a := x.bits)]

theorem equal_self (x : Double) : x.equal x = !x.isNaN := by
  simp [equal]

end Double

end SqlSchema
