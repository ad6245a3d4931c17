/-!
# Numbers with a decimal point

The positional text of `n · 10^(-scale)`: the digits of `n` with the point before the last `scale`
of them. There is at least one digit before the point, and no point without digits after it.
-/

namespace SqlSchema.Number

/-- The decimal digits of a number, without leading zeros; zero has one digit. -/
def digits (n : Nat) : List Char :=
  Nat.toDigits 10 n

/-- The digits of `n`, with zeros in front if there are fewer than `width`. -/
def paddedDigits (width n : Nat) : List Char :=
  List.replicate (width - (digits n).length) '0' ++ digits n

/-- The text of `n · 10^(-scale)`. -/
def positional (n scale : Nat) : List Char :=
  if scale = 0 then digits n
  else
    let padded := paddedDigits (scale + 1) n
    let whole := padded.length - scale
    padded.take whole ++ '.' :: padded.drop whole

def signed (negative : Bool) (cs : List Char) : String :=
  String.ofList (if negative then '-' :: cs else cs)

theorem length_paddedDigits (width n : Nat) :
    (paddedDigits width n).length = max width (digits n).length := by
  simp only [paddedDigits, List.length_append, List.length_replicate]
  omega

end SqlSchema.Number
