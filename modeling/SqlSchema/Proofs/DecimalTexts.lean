import Mathlib.Algebra.Field.Rat
import Mathlib.Data.List.TakeWhile
import SqlSchema.Number.Bounded
import SqlSchema.Proofs.Determination

/-!
# Texts of decimals

The text of a decimal is a numeral (`Numeral`): a sign, digits, and digits behind a point if there
are any. There are as many of these as the scale says, there is no zero in front that could be left
out, and the numeral has the value of the decimal. So the decimal is read back from its text, its
scale included (`ofText?_text`), and no two decimals have the same text.
-/

namespace SqlSchema

open Number

/-! ## Numerals -/

/-- A number written out with digits before the point, and behind it if there is one. -/
structure Numeral where
  negative : Bool
  whole : List Char
  fraction : List Char
  whole_ne_nil : whole ≠ []
  isDigit_whole : ∀ c ∈ whole, c.isDigit
  isDigit_fraction : ∀ c ∈ fraction, c.isDigit

namespace Numeral

/-- The digits of a numeral, and the point if there are digits behind it. -/
def unsigned (n : Numeral) : List Char :=
  if n.fraction = [] then n.whole else n.whole ++ '.' :: n.fraction

def chars (n : Numeral) : List Char :=
  if n.negative then '-' :: n.unsigned else n.unsigned

/-- A zero in front is the only digit before the point. -/
def Plain (n : Numeral) : Prop :=
  n.whole.head? = some '0' → n.whole = ['0']

/-- The number that the digits make if the point is left out. -/
def coefficient (n : Numeral) : Int :=
  let digits := Nat.ofDigitChars 10 (n.whole ++ n.fraction) 0
  if n.negative then -digits else digits

/-- What a numeral stands for. -/
def value (n : Numeral) : ℚ :=
  let whole : ℚ := Nat.ofDigitChars 10 n.whole 0
  let fraction : ℚ := Nat.ofDigitChars 10 n.fraction 0
  let size := whole + fraction / 10 ^ n.fraction.length
  if n.negative then -size else size

theorem value_eq (n : Numeral) : n.value = n.coefficient / 10 ^ n.fraction.length := by
  have hten : (10 : ℚ) ^ n.fraction.length ≠ 0 := pow_ne_zero _ (by decide)
  -- The digits behind the point move those in front of it up by as many places.
  have hsize : (Nat.ofDigitChars 10 (n.whole ++ n.fraction) 0 : ℚ) / 10 ^ n.fraction.length =
      Nat.ofDigitChars 10 n.whole 0 +
        Nat.ofDigitChars 10 n.fraction 0 / 10 ^ n.fraction.length := by
    rw [Nat.ofDigitChars_append, Nat.ofDigitChars_eq_ofDigitChars_zero, Nat.cast_add, Nat.cast_mul,
      Nat.cast_pow, Nat.cast_ofNat, add_div, mul_div_cancel_left₀ _ hten]
  unfold value coefficient
  by_cases hn : n.negative
  · simp only [if_pos hn, Int.cast_neg, Int.cast_natCast, neg_div, hsize]
  · simp only [if_neg hn, Int.cast_natCast, hsize]

/-! ## Reading -/

def ofParts? (negative : Bool) (whole fraction : List Char) : Option Numeral :=
  if h : whole.isEmpty = false ∧ whole.all Char.isDigit ∧ fraction.all Char.isDigit then
    some ⟨negative, whole, fraction, List.isEmpty_eq_false_iff.1 h.1, List.all_eq_true.1 h.2.1,
      List.all_eq_true.1 h.2.2⟩
  else none

/-- The numeral with a sign, and with these characters behind it. A point has digits behind it. -/
def ofUnsigned? (negative : Bool) (cs : List Char) : Option Numeral :=
  match cs.dropWhile (· ≠ '.') with
  | [] => ofParts? negative cs []
  | _ :: fraction =>
    if fraction = [] then none else ofParts? negative (cs.takeWhile (· ≠ '.')) fraction

def ofChars? : List Char → Option Numeral
  | [] => none
  | c :: cs => if c = '-' then ofUnsigned? true cs else ofUnsigned? false (c :: cs)

theorem ofParts?_self (n : Numeral) : ofParts? n.negative n.whole n.fraction = some n :=
  dif_pos ⟨List.isEmpty_eq_false_iff.2 n.whole_ne_nil, List.all_eq_true.2 n.isDigit_whole,
    List.all_eq_true.2 n.isDigit_fraction⟩

theorem exists_unsigned_cons (n : Numeral) : ∃ c cs, n.unsigned = c :: cs ∧ c.isDigit := by
  obtain ⟨c, cs, hc⟩ := List.exists_cons_of_ne_nil n.whole_ne_nil
  have hdigit : c.isDigit := n.isDigit_whole c (by rw [hc]; exact List.mem_cons_self)
  unfold unsigned
  rw [hc]
  by_cases hfraction : n.fraction = []
  · exact ⟨c, cs, if_pos hfraction, hdigit⟩
  · exact ⟨c, cs ++ '.' :: n.fraction, if_neg hfraction, hdigit⟩

theorem ofUnsigned?_unsigned (n : Numeral) : ofUnsigned? n.negative n.unsigned = some n := by
  have hwhole : ∀ c ∈ n.whole, decide (c ≠ '.') = true := by
    intro c hc
    have hdigit := n.isDigit_whole c hc
    rw [decide_eq_true_iff]
    rintro rfl
    exact absurd hdigit (by decide)
  unfold ofUnsigned? unsigned
  by_cases hfraction : n.fraction = []
  · have hself := n.ofParts?_self
    rw [hfraction] at hself
    rw [if_pos hfraction, List.dropWhile_eq_nil_iff.2 hwhole]
    exact hself
  · have hdrop : (n.whole ++ '.' :: n.fraction).dropWhile (· ≠ '.') = '.' :: n.fraction := by
      rw [List.dropWhile_append_of_pos hwhole]
      rfl
    have htake : (n.whole ++ '.' :: n.fraction).takeWhile (· ≠ '.') = n.whole := by
      rw [List.takeWhile_append_of_pos hwhole]
      exact List.append_nil _
    rw [if_neg hfraction, hdrop, htake]
    exact (if_neg hfraction).trans n.ofParts?_self

theorem ofChars?_chars (n : Numeral) : ofChars? n.chars = some n := by
  have hread := n.ofUnsigned?_unsigned
  obtain ⟨c, cs, hc, hdigit⟩ := n.exists_unsigned_cons
  unfold chars
  rw [hc] at hread ⊢
  by_cases hn : n.negative
  · rw [if_pos hn, ofChars?, if_pos rfl, ← hread, hn]
  · have hminus : c ≠ '-' := by
      rintro rfl
      exact absurd hdigit (by decide)
    rw [if_neg hn, ofChars?, if_neg hminus, ← hread, Bool.eq_false_of_not_eq_true hn]

end Numeral

namespace Decimal

/-- The decimal with the digits of a numeral, if it fits. -/
def ofNumeral? (n : Numeral) : Option Decimal :=
  if n.fraction.length < UInt32.size then
    ofUnscaled? n.coefficient (UInt32.ofNat n.fraction.length)
  else none

/-- The decimal that a text shows. -/
def ofText? (s : String) : Option Decimal := do
  let n ← Numeral.ofChars? s.toList
  ofNumeral? n

end Decimal

/-! ## Digits before and behind the point -/

section Digits

variable {n scale : Nat}

theorem eq_zero_of_head?_digits (h : (digits n).head? = some '0') : n = 0 := by
  unfold digits at h
  induction n using Nat.strong_induction_on with
  | _ n ih =>
    by_cases hn : n < 10
    · rw [Nat.toDigits_of_lt_base hn, List.head?_cons, Option.some.injEq] at h
      exact Nat.digitChar_eq_zero.1 h
    · rw [Nat.toDigits_of_base_le (by decide) (Nat.le_of_not_lt hn),
        List.head?_append_of_ne_nil _ Nat.toDigits_ne_nil] at h
      have hdiv := ih (n / 10) (by omega) h
      omega

def wholeDigits (n scale : Nat) : List Char :=
  let padded := paddedDigits (scale + 1) n
  padded.take (padded.length - scale)

def fractionDigits (n scale : Nat) : List Char :=
  let padded := paddedDigits (scale + 1) n
  padded.drop (padded.length - scale)

theorem wholeDigits_append_fractionDigits :
    wholeDigits n scale ++ fractionDigits n scale = paddedDigits (scale + 1) n :=
  List.take_append_drop _ _

theorem length_fractionDigits : (fractionDigits n scale).length = scale := by
  have hlength := length_paddedDigits (scale + 1) n
  unfold fractionDigits
  rw [List.length_drop]
  omega

theorem length_wholeDigits : (wholeDigits n scale).length = max 1 ((digits n).length - scale) := by
  have hlength := length_paddedDigits (scale + 1) n
  unfold wholeDigits
  rw [List.length_take]
  omega

theorem paddedDigits_of_le {width : Nat} (h : width ≤ (digits n).length) :
    paddedDigits width n = digits n := by
  rw [paddedDigits, Nat.sub_eq_zero_of_le h, List.replicate_zero, List.nil_append]

theorem head?_wholeDigits (h : (wholeDigits n scale).head? = some '0') :
    wholeDigits n scale = ['0'] := by
  have hone : (wholeDigits n scale).length = 1 := by
    rw [length_wholeDigits]
    by_cases hscale : (digits n).length ≤ scale
    · omega
    · -- No zeros are put in front, so the number itself starts with one.
      have hpos : (digits n).length - scale ≠ 0 := by omega
      rw [wholeDigits, paddedDigits_of_le (by omega), List.head?_take, if_neg hpos] at h
      obtain rfl := eq_zero_of_head?_digits h
      have : (digits 0).length = 1 := rfl
      omega
  obtain ⟨c, hc⟩ := List.length_eq_one_iff.1 hone
  rw [hc, List.head?_cons, Option.some.injEq] at h
  rw [hc, h]

theorem positional_eq : positional n scale =
    if fractionDigits n scale = [] then wholeDigits n scale
    else wholeDigits n scale ++ '.' :: fractionDigits n scale := by
  have hlength : (fractionDigits n scale).length = scale := length_fractionDigits
  unfold positional
  by_cases hscale : scale = 0
  · have hnil : fractionDigits n scale = [] := List.eq_nil_of_length_eq_zero (hlength.trans hscale)
    have hwhole : wholeDigits n scale ++ fractionDigits n scale = _ :=
      wholeDigits_append_fractionDigits
    have hpos : 0 < (digits n).length := Nat.length_toDigits_pos
    rw [hnil, List.append_nil, paddedDigits_of_le (by omega)] at hwhole
    rw [if_pos hscale, if_pos hnil, hwhole]
  · have hne : fractionDigits n scale ≠ [] := by
      intro hnil
      rw [hnil, List.length_nil] at hlength
      exact hscale hlength.symm
    rw [if_neg hscale, if_neg hne]
    rfl

end Digits

/-! ## The numeral of a decimal -/

namespace Decimal

/-- The sign and the digits of a decimal. -/
def numeral (d : Decimal) : Numeral where
  negative := d.unscaled < 0
  whole := wholeDigits d.unscaled.natAbs d.scale.toNat
  fraction := fractionDigits d.unscaled.natAbs d.scale.toNat
  whole_ne_nil := by
    rw [← List.length_pos_iff, length_wholeDigits]
    exact Nat.le_max_left _ _
  isDigit_whole := fun _ hc => isDigit_of_mem_paddedDigits (List.mem_of_mem_take hc)
  isDigit_fraction := fun _ hc => isDigit_of_mem_paddedDigits (List.mem_of_mem_drop hc)

theorem chars_numeral (d : Decimal) : d.numeral.chars = d.text.toList := by
  unfold text signed
  rw [String.toList_ofList, positional_eq]
  unfold Numeral.chars Numeral.unsigned
  rfl

theorem coefficient_numeral (d : Decimal) : d.numeral.coefficient = d.unscaled := by
  have hdigits : Nat.ofDigitChars 10 (d.numeral.whole ++ d.numeral.fraction) 0 =
      d.unscaled.natAbs := by
    show Nat.ofDigitChars 10 (wholeDigits _ _ ++ fractionDigits _ _) 0 = _
    rw [wholeDigits_append_fractionDigits, paddedDigits, Nat.ofDigitChars_append,
      Nat.ofDigitChars_replicate_zero, Nat.mul_zero, digits, Nat.ofDigitChars_ten_toDigits]
  have hnegative : d.numeral.negative = true ↔ d.unscaled < 0 := decide_eq_true_iff
  unfold Numeral.coefficient
  rw [hdigits]
  by_cases hsign : d.unscaled < 0
  · rw [if_pos (hnegative.2 hsign)]
    omega
  · rw [if_neg (fun h => hsign (hnegative.1 h))]
    omega

theorem ofNumeral?_numeral (d : Decimal) : ofNumeral? d.numeral = some d := by
  have hlength : d.numeral.fraction.length = d.scale.toNat := length_fractionDigits
  unfold ofNumeral? ofUnscaled?
  rw [hlength, if_pos d.scale.toNat_lt, d.coefficient_numeral, dif_pos ⟨d.lower, d.upper⟩]
  congr
  exact UInt32.ofNat_toNat

theorem ofText?_text (d : Decimal) : ofText? d.text = some d := by
  unfold ofText?
  rw [← d.chars_numeral, Numeral.ofChars?_chars]
  exact d.ofNumeral?_numeral

theorem eq_of_text_eq {d e : Decimal} (h : d.text = e.text) : d = e := by
  have hd := d.ofText?_text
  rw [h, e.ofText?_text] at hd
  exact (Option.some.inj hd).symm

/-! ## The number of digits -/

theorem lt_precision_iff {d : Decimal} (h : d.unscaled ≠ 0) (k : Nat) :
    k < d.precision ↔ 10 ^ k ≤ d.unscaled.natAbs := by
  by_cases hk : k = 0
  · rw [hk, Nat.pow_zero]
    exact iff_of_true d.precision_pos (Int.natAbs_pos.2 h)
  · unfold precision digits
    rw [← Nat.not_le, Nat.length_toDigits_le_iff (by decide) (Nat.pos_of_ne_zero hk), Nat.not_lt]

/-- The number of digits is the power of ten that the unscaled value is the first to stay below. -/
theorem precision_eq_iff {d : Decimal} (h : d.unscaled ≠ 0) (p : Nat) :
    d.precision = p ↔ 10 ^ (p - 1) ≤ d.unscaled.natAbs ∧ d.unscaled.natAbs < 10 ^ p := by
  have hpos := d.precision_pos
  have hbelow := not_congr (lt_precision_iff h p)
  rw [Nat.not_le] at hbelow
  rw [← lt_precision_iff h, ← hbelow]
  omega

end Decimal

/-! ## Texts and digits -/

/-- With a scale that leaves room for the padding, a decimal has a text. It is a numeral with no
zero in front that could be left out, with a minus sign exactly for negative decimals, with as many
digits behind the point as the scale says, and with the value of the decimal. The decimal is read
back from it, and no other decimal has this text. The digits of a decimal are counted, from 1 for
zero up to 39. -/
theorem decimal_texts (d : Decimal) (h : d.scale.toNat ≤ 65534) :
    d.text? = some d.text ∧
    (∃ n : Numeral, Numeral.ofChars? d.text.toList = some n ∧ n.chars = d.text.toList ∧ n.Plain ∧
      (n.negative = true ↔ d.unscaled < 0) ∧ n.fraction.length = d.scale.toNat ∧
      n.value = d.unscaled / 10 ^ d.scale.toNat) ∧
    Decimal.ofText? d.text = some d ∧
    (∀ e : Decimal, e.text? = d.text? → e = d) ∧
    d.precision? = some d.precision ∧
    (d.unscaled = 0 → d.precision = 1) ∧
    (d.unscaled ≠ 0 → ∀ p, d.precision = p ↔
      10 ^ (p - 1) ≤ d.unscaled.natAbs ∧ d.unscaled.natAbs < 10 ^ p) ∧
    1 ≤ d.precision ∧ d.precision ≤ 39 := by
  have htext : d.text? = some d.text := by
    rw [d.text?_eq]
    exact if_pos (Nat.lt_of_le_of_lt (Nat.succ_le_succ h) (by decide))
  have hlength : d.numeral.fraction.length = d.scale.toNat := length_fractionDigits
  refine ⟨htext, ?_, d.ofText?_text, ?_, d.precision?_eq, ?_, ?_, d.precision_pos, d.precision_le⟩
  · refine ⟨d.numeral, ?_, d.chars_numeral, head?_wholeDigits, decide_eq_true_iff, hlength, ?_⟩
    · rw [← d.chars_numeral, Numeral.ofChars?_chars]
    · rw [Numeral.value_eq, d.coefficient_numeral, hlength]
  · intro e he
    rw [htext, e.text?_eq] at he
    split at he
    · exact Decimal.eq_of_text_eq (Option.some.inj he)
    · cases he
  · intro hzero
    rw [Decimal.precision, hzero]
    rfl
  · intro hne p
    exact Decimal.precision_eq_iff hne p

/-- The least value of 128 bits, which is not the negative of another one, with more places behind
the point than digits. -/
theorem decimal_texts_least :
    let d : Decimal := { unscaled := -170141183460469231731687303715884105728, scale := 40 }
    d.scale.toNat ≤ 65534 ∧
      d.text? = some "-0.0170141183460469231731687303715884105728" ∧
      Decimal.ofText? "-0.0170141183460469231731687303715884105728" = some d ∧
      d.precision? = some 39 := by
  intro d
  have hscale : d.scale.toNat ≤ 65534 := by decide
  have hshown : d.text = "-0.0170141183460469231731687303715884105728" := by decide
  obtain ⟨htext, -, hread, -, hcount, -, hprecision, -⟩ := decimal_texts d hscale
  have hdigits : d.precision = 39 := (hprecision (by decide) 39).2 (by decide)
  rw [hshown] at htext hread
  rw [hdigits] at hcount
  exact ⟨hscale, htext, hread, hcount⟩

end SqlSchema
