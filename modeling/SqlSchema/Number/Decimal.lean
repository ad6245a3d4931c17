import SqlSchema.Number.Positional

/-!
# Exact decimal numbers

A decimal is a whole number of 128 bits together with the number of its digits that stand after the
point. Two decimals with the same value and different scales are different.
-/

namespace SqlSchema

/-- The number `unscaled · 10^(-scale)`. -/
structure Decimal where
  unscaled : Int
  scale : UInt32
  lower : -Int.pow 2 127 ≤ unscaled := by decide
  upper : unscaled < Int.pow 2 127 := by decide
  deriving DecidableEq

namespace Decimal

/-- The decimal with an unscaled value, if it fits in 128 bits. -/
def ofUnscaled? (unscaled : Int) (scale : UInt32) : Option Decimal :=
  if h : -Int.pow 2 127 ≤ unscaled ∧ unscaled < Int.pow 2 127 then
    some ⟨unscaled, scale, h.1, h.2⟩
  else none

/-- The number of digits of the unscaled value. Zero has one. -/
def precision (d : Decimal) : Nat :=
  (Number.digits d.unscaled.natAbs).length

theorem precision_le (d : Decimal) : d.precision ≤ 39 := by
  have hpow : Int.pow 2 127 = 2 ^ 127 := rfl
  have hlower := d.lower
  have hupper := d.upper
  rw [hpow] at hlower hupper
  unfold precision Number.digits
  rw [Nat.length_toDigits_le_iff (by decide) (by decide)]
  omega

/-- The text of a decimal, with exactly `scale` digits after the point. -/
def text (d : Decimal) : String :=
  Number.signed (d.unscaled < 0) (Number.positional d.unscaled.natAbs d.scale.toNat)

end Decimal

end SqlSchema
