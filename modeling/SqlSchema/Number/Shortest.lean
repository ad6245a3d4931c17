import SqlSchema.Number.Double

/-!
# The shortest decimal text of a double

Every double stands for all real numbers that round to it. Among the decimal numbers in that
interval the shortest are those on the coarsest grid of multiples of a power of ten that meets it,
and of these the nearest to the double is written. Between two equally near ones the upper is taken.

The text is always positional, without an exponent.
-/

namespace SqlSchema.Double

/-- A real interval with a point marked in it. All bounds are multiples of `1 / unit`. -/
structure Interval where
  low : Nat
  mid : Nat
  high : Nat
  unit : Nat
  /-- The two ends belong to the interval. -/
  closed : Bool

/-- The numbers that round to a finite double. The gap below a power of two is half as wide as the
one above it. Bounds in quarters of the last place: `2^(scale - 1076)`. -/
def interval (x : Double) : Interval where
  low :=
    (4 * x.significand - (if x.fraction = 0 && 1 < x.exponent then 1 else 2)) * Nat.pow 2 x.scale
  mid := 4 * x.significand * Nat.pow 2 x.scale
  high := (4 * x.significand + 2) * Nat.pow 2 x.scale
  unit := Nat.pow 2 1076
  closed := x.significand % 2 = 0

/-- The point `n · step / parts` lies in the interval. -/
def Interval.contains (i : Interval) (step parts n : Nat) : Bool :=
  let point := n * step * i.unit
  let low := i.low * parts
  let high := i.high * parts
  if i.closed then low ≤ point && point ≤ high else low < point && point < high

/-- The multiple of `step / parts` in the interval that is nearest to its marked point, as a number
of steps. If any multiple is in the interval, so is one of the two around the marked point. -/
def Interval.nearest? (i : Interval) (step parts : Nat) : Option Nat :=
  let below := i.mid * parts / (step * i.unit)
  let above := below + 1
  match i.contains step parts below, i.contains step parts above with
  | true, true =>
    let toBelow := i.mid * parts - below * step * i.unit
    let toAbove := above * step * i.unit - i.mid * parts
    some (if toBelow < toAbove then below else above)
  | true, false => some below
  | false, true => some above
  | false, false => none

/-- A decimal number `coefficient · 10^up / 10^down`. -/
structure DecimalForm where
  coefficient : Nat
  up : Nat
  down : Nat

/-- The grids from coarse to fine: the multiples of `10^308` down to those of `10^(-324)`. The last
one is finer than the gaps between doubles. -/
def grids : List (Nat × Nat) :=
  (List.range 309).map (fun i => (308 - i, 0)) ++ (List.range 324).map (fun i => (0, i + 1))

/-- The nearest number on the coarsest grid that meets the interval. -/
def Interval.shortest (i : Interval) : DecimalForm :=
  match grids.findSome? fun (up, down) =>
      (i.nearest? (Nat.pow 10 up) (Nat.pow 10 down)).map fun n => ⟨n, up, down⟩ with
  | some form => form
  | none => ⟨0, 0, 0⟩

/-- The digits of a decimal number, with a point if there is a part after it. -/
def DecimalForm.text (d : DecimalForm) : List Char :=
  Number.positional (d.coefficient * Nat.pow 10 d.up) d.down

/-- The text of a double: the shortest that reads back, `NaN`, or a signed `inf`. -/
def text (x : Double) : String :=
  if x.isNaN then "NaN"
  else if x.isInfinite then Number.signed x.negative ['i', 'n', 'f']
  else if x.isZero then Number.signed x.negative ['0']
  else Number.signed x.negative x.interval.shortest.text

end SqlSchema.Double
