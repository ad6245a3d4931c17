import SqlSchema.Number.Decimal
import SqlSchema.Text.Blank

/-!
# Decimals in bounded arithmetic

How the digits of a decimal are counted and its text is put together where numbers have a fixed
size. The magnitude has 128 bits, digits are counted in 32 bits, a place in a text is a machine
word, and a text is padded to a width of 16 bits at most. A step whose result does not fit fails,
and so does what it is a step of.

The digits are always counted (`precision?_eq`), and the text is there exactly if the width fits
up to which it is padded (`text?_eq`).
-/

namespace SqlSchema

open Text (byteLength)

namespace Number

/-- The sum of two numbers, if it is below the bound. -/
def sum? (bound a b : Nat) : Option Nat :=
  if a + b < bound then some (a + b) else none

/-- The difference of two numbers, if there is one. -/
def difference? (a b : Nat) : Option Nat :=
  if b ≤ a then some (a - b) else none

/-- The text with zeros in front of it up to a width. -/
def padZeros? (width : Nat) (cs : List Char) : Option (List Char) :=
  if width < UInt16.size then some (List.replicate (width - cs.length) '0' ++ cs) else none

/-- The two parts of a text at a byte place. There are none if the place is behind the end of the
text or inside a character. -/
def cutAt? : Nat → List Char → Option (List Char × List Char)
  | 0, cs => some ([], cs)
  | _ + 1, [] => none
  | n + 1, c :: cs =>
    if c.utf8Size ≤ n + 1 then (cutAt? (n + 1 - c.utf8Size) cs).map (Prod.map (c :: ·) id)
    else none

theorem cutAt?_byteLength (cs ds : List Char) :
    cutAt? (byteLength cs) (cs ++ ds) = some (cs, ds) := by
  induction cs with
  | nil => rw [byteLength, List.nil_append, cutAt?]
  | cons c cs ih =>
    have hc := c.utf8Size_pos
    obtain ⟨n, hn⟩ : ∃ n, byteLength (c :: cs) = n + 1 := Nat.exists_eq_add_one.2 (by
      rw [byteLength]
      omega)
    have hle : c.utf8Size ≤ n + 1 := by
      rw [← hn, byteLength]
      omega
    have hrest : n + 1 - c.utf8Size = byteLength cs := by
      rw [← hn, byteLength]
      omega
    rw [hn, List.cons_append, cutAt?, if_pos hle, hrest, ih]
    rfl

theorem byteLength_of_isDigit {cs : List Char} (h : ∀ c ∈ cs, c.isDigit) :
    byteLength cs = cs.length := by
  induction cs with
  | nil => rfl
  | cons c cs ih =>
    obtain ⟨hc, hcs⟩ := List.forall_mem_cons.1 h
    have hle : c.val ≤ 127 := by
      simp only [Char.isDigit, Bool.and_eq_true, decide_eq_true_eq] at hc
      exact UInt32.le_trans hc.2 (by decide)
    rw [byteLength, ih hcs, Char.utf8Size_eq_one_iff.2 hle, List.length_cons, Nat.add_comm]

theorem cutAt?_of_isDigit {cs : List Char} {n : Nat} (h : ∀ c ∈ cs, c.isDigit)
    (hn : n ≤ cs.length) : cutAt? n cs = some (cs.take n, cs.drop n) := by
  have hbytes : byteLength (cs.take n) = n := by
    rw [byteLength_of_isDigit fun c hc => h c (List.mem_of_mem_take hc), List.length_take_of_le hn]
  have hcut := cutAt?_byteLength (cs.take n) (cs.drop n)
  rwa [hbytes, List.take_append_drop] at hcut

theorem isDigit_of_mem_paddedDigits {width n : Nat} {c : Char} (hc : c ∈ paddedDigits width n) :
    c.isDigit := by
  rw [paddedDigits, List.mem_append] at hc
  rcases hc with hzero | hdigit
  · rw [List.eq_of_mem_replicate hzero]
    rfl
  · exact Nat.isDigit_of_mem_toDigits (by decide) (by decide) hdigit

/-- The digits of a number, counted from `count` on by dividing. -/
def countDigits? (count : Nat) (n : BitVec 128) : Option Nat :=
  if n < 10 then some count
  else do
    let count ← sum? UInt32.size count 1
    countDigits? count (n / 10)
termination_by n.toNat
decreasing_by
  rename_i h
  rw [BitVec.lt_def] at h
  exact Nat.div_lt_self (Nat.lt_of_lt_of_le (by decide) (Nat.le_of_not_lt h)) (by decide)

theorem length_digits_of_lt {n : Nat} (h : n < 10) : (digits n).length = 1 := by
  rw [digits, Nat.toDigits_of_lt_base h, List.length_singleton]

theorem length_digits_of_le {n : Nat} (h : 10 ≤ n) :
    (digits n).length = (digits (n / 10)).length + 1 := by
  rw [digits, Nat.toDigits_of_base_le (by decide) h, List.length_append, List.length_singleton,
    digits]

/-- The count is that of the digits if it does not pass 32 bits. -/
theorem countDigits?_eq (count : Nat) (n : BitVec 128)
    (h : count + (digits n.toNat).length ≤ UInt32.size) :
    countDigits? count n = some (count + (digits n.toNat).length - 1) := by
  fun_induction countDigits? count n with
  | case1 count n hn =>
    rw [BitVec.lt_def] at hn
    rw [length_digits_of_lt hn, Nat.add_sub_cancel]
  | case2 count n hn ih =>
    rw [BitVec.lt_def] at hn
    have hlength : (digits n.toNat).length = (digits (n / 10).toNat).length + 1 :=
      length_digits_of_le (Nat.le_of_not_lt hn)
    have hpos : 0 < (digits (n / 10).toNat).length := Nat.length_toDigits_pos
    have hsum : sum? UInt32.size count 1 = some (count + 1) := if_pos (by omega)
    rw [hsum, hlength]
    simp only [Option.bind_eq_bind, Option.bind_some]
    rw [ih (count + 1) (by omega), Nat.add_right_comm, Nat.add_assoc]

end Number

namespace Decimal

open Number

def magnitude (d : Decimal) : BitVec 128 :=
  (BitVec.ofInt 128 d.unscaled).abs

theorem toNat_magnitude (d : Decimal) : d.magnitude.toNat = d.unscaled.natAbs := by
  have hself : (BitVec.ofInt 128 d.unscaled).toInt = d.unscaled :=
    BitVec.toInt_ofInt_eq_self (by decide) d.lower d.upper
  rw [BitVec.toInt_eq_msb_cond] at hself
  unfold magnitude
  rw [BitVec.toNat_abs]
  by_cases hmsb : (BitVec.ofInt 128 d.unscaled).msb = true
  · rw [if_pos hmsb] at hself ⊢
    omega
  · rw [if_neg hmsb] at hself ⊢
    omega

/-- The number of digits of the unscaled value. -/
def precision? (d : Decimal) : Option Nat :=
  countDigits? 1 d.magnitude

/-- The text of a decimal, with exactly `scale` digits after the point. -/
def text? (d : Decimal) : Option String :=
  let digits := digits d.magnitude.toNat
  let scale := d.scale.toNat
  if scale = 0 then some (signed (d.unscaled < 0) digits)
  else do
    let width ← sum? USize.size scale 1
    let padded ← padZeros? width digits
    let place ← difference? (byteLength padded) scale
    let (whole, fraction) ← cutAt? place padded
    some (signed (d.unscaled < 0) (whole ++ '.' :: fraction))

theorem precision?_eq (d : Decimal) : d.precision? = some d.precision := by
  have hle := d.precision_le
  have hbound : 1 + 39 ≤ UInt32.size := by decide
  unfold precision at hle
  unfold precision? precision
  rw [countDigits?_eq _ _ (by rw [d.toNat_magnitude]; omega), d.toNat_magnitude,
    Nat.add_sub_cancel_left]

/-- The text is there exactly if the width fits up to which it is padded. -/
theorem text?_eq (d : Decimal) :
    d.text? = if d.scale.toNat + 1 < UInt16.size then some d.text else none := by
  unfold text? text positional
  rw [d.toNat_magnitude]
  by_cases hzero : d.scale.toNat = 0
  · have hone : 0 + 1 < UInt16.size := by decide
    simp only [hzero, if_pos hone, if_true]
  simp only [if_neg hzero, Option.bind_eq_bind]
  by_cases hwidth : d.scale.toNat + 1 < UInt16.size
  · have hsize := USize.le_size
    have hsum : sum? USize.size d.scale.toNat 1 = some (d.scale.toNat + 1) :=
      if_pos (Nat.lt_of_lt_of_le (Nat.lt_trans hwidth (by decide)) hsize)
    have hpad : padZeros? (d.scale.toNat + 1) (digits d.unscaled.natAbs) =
        some (paddedDigits (d.scale.toNat + 1) d.unscaled.natAbs) := if_pos hwidth
    rw [if_pos hwidth, hsum, Option.bind_some, hpad, Option.bind_some]
    have hdigits : ∀ c ∈ paddedDigits (d.scale.toNat + 1) d.unscaled.natAbs, c.isDigit :=
      fun c => isDigit_of_mem_paddedDigits
    have hlength := length_paddedDigits (d.scale.toNat + 1) d.unscaled.natAbs
    generalize paddedDigits (d.scale.toNat + 1) d.unscaled.natAbs = padded at hdigits hlength ⊢
    have hdifference : difference? (byteLength padded) d.scale.toNat =
        some (padded.length - d.scale.toNat) := by
      rw [byteLength_of_isDigit hdigits]
      exact if_pos (by omega)
    rw [hdifference, Option.bind_some, cutAt?_of_isDigit hdigits (Nat.sub_le _ _)]
    rfl
  · rw [if_neg hwidth]
    have hpad : padZeros? (d.scale.toNat + 1) (digits d.unscaled.natAbs) = none := if_neg hwidth
    by_cases hsum : d.scale.toNat + 1 < USize.size
    · rw [sum?, if_pos hsum, Option.bind_some, hpad, Option.bind_none]
    · rw [sum?, if_neg hsum, Option.bind_none]

end Decimal

end SqlSchema
