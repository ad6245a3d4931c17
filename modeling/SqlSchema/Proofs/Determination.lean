import Mathlib.Data.Nat.Digits.Defs
import SqlSchema.Proofs.Conformance
import SqlSchema.Proofs.Nesting
import SqlSchema.Proofs.Rejections

/-!
# Values that determine their type

A value other than an array or a map passes the check of one type at most: it shows its kind, and a
decimal its digits and a record its fields. Arrays and maps show the types of their parts only where
they have some, and NULL shows nothing. So a value determines its type if it is `Determinate`, that
is if the parts that it needs for this are there (`check_determines_type`).
-/

namespace SqlSchema

/-- The value shows its type in all its parts. -/
inductive Determinate : Value → Prop
  | single {v : Value} : v.kind ≠ .array → v.kind ≠ .map → Determinate v
  | array {items : List (Option Value)} {w : Value} : some w ∈ items → Determinate w →
      Determinate (.array items)
  /-- The key and the value may stand in two entries. -/
  | map {entries : List (Option Value × Option Value)} {k v : Value} {x y : Option Value} :
      (some k, x) ∈ entries → (y, some v) ∈ entries → Determinate k → Determinate v →
      Determinate (.map entries)

/-! ## Digits -/

theorem length_digits_eq (n : Nat) :
    (Number.digits n).length = max 1 (Nat.digits 10 n).length := by
  unfold Number.digits
  induction n using Nat.strong_induction_on with
  | _ n ih =>
    by_cases hn : n < 10
    · rw [Nat.toDigits_of_lt_base hn]
      by_cases h0 : n = 0
      · subst h0
        rfl
      · rw [Nat.digits_of_lt 10 n h0 hn]
        rfl
    · have hdiv : Nat.digits 10 (n / 10) ≠ [] := by
        rw [Nat.digits_ne_nil_iff_ne_zero]
        omega
      have hpos := List.length_pos_of_ne_nil hdiv
      rw [Nat.toDigits_of_base_le (by decide) (by omega), List.length_append, ih _ (by omega),
        Nat.digits_def' (by decide) (show 0 < n by omega), List.length_cons, List.length_cons,
        List.length_nil]
      omega

theorem Decimal.precision_eq (x : Decimal) :
    x.precision = max 1 (Nat.digits 10 x.unscaled.natAbs).length :=
  length_digits_eq _

theorem Decimal.precision_pos (x : Decimal) : 1 ≤ x.precision := by
  rw [x.precision_eq]
  exact Nat.le_max_left _ _

theorem Decimal.toNat_ofNat_precision (x : Decimal) :
    (UInt32.ofNat x.precision).toNat = x.precision :=
  UInt32.toNat_ofNat_of_lt' (Nat.lt_of_le_of_lt x.precision_le (by decide))

/-- The decimal type with the digits and the scale of a number. -/
def Decimal.type (x : Decimal) (h : x.scale.toNat ≤ x.precision) : DecimalType where
  precision := UInt32.ofNat x.precision
  scale := x.scale
  precision_pos := by
    rw [UInt32.le_iff_toNat_le, x.toNat_ofNat_precision]
    exact x.precision_pos
  scale_le := by
    rw [UInt32.le_iff_toNat_le, x.toNat_ofNat_precision]
    exact h

/-! ## Types of accepted values -/

namespace DataType

variable {t u : DataType}

theorem kind_eq_of_check {v : Value} (h : (t.check (some v)).outcome = .ok ()) :
    v.kind = t.kind := by
  have hv : (t.checkValue Value.kind v).outcome = .ok () := h
  by_contra hne
  by_cases ht : t.isSimple
  · rw [outcome_checkValue_of_isSimple ht, if_neg hne] at hv
    cases hv
  · rw [outcome_checkValue_of_kind_ne (Bool.not_eq_true _ ▸ ht) hne] at hv
    cases hv

theorem check_decimal_iff {x : Decimal} : (t.check (some (.decimal x))).outcome = .ok () ↔
    ∃ d : DecimalType, t = .decimal d ∧ d.precision.toNat = x.precision ∧ d.scale = x.scale := by
  constructor
  · intro h
    have hkind := kind_eq_of_check h
    cases t with
    | decimal d =>
      obtain ⟨hp, hs⟩ := check_decimal_eq_ok_iff.1 h
      exact ⟨d, rfl, hp.symm, hs.symm⟩
    | _ => cases hkind
  · rintro ⟨d, rfl, hp, hs⟩
    exact check_decimal_eq_ok_iff.2 ⟨hp.symm, hs.symm⟩

theorem check_record_iff {slots : List (Field × Option Value)} :
    (t.check (some (.record slots))).outcome = .ok () ↔ t = .struct (slots.map Prod.fst) := by
  constructor
  · intro h
    have hkind := kind_eq_of_check h
    cases t with
    | struct fields => rw [check_struct_eq_ok_iff.1 h]
    | _ => cases hkind
  · rintro rfl
    exact check_struct_eq_ok_iff.2 rfl

theorem check_array_iff {items : List (Option Value)} :
    (t.check (some (.array items))).outcome = .ok () ↔
      ∃ item, t = .array item ∧ ∀ c ∈ items, (item.check c).outcome = .ok () := by
  constructor
  · intro h
    have hkind := kind_eq_of_check h
    cases t with
    | array item => exact ⟨item, rfl, check_array_eq_ok_iff.1 h⟩
    | _ => cases hkind
  · rintro ⟨item, rfl, h⟩
    exact check_array_eq_ok_iff.2 h

theorem check_map_iff {entries : List (Option Value × Option Value)} :
    (t.check (some (.map entries))).outcome = .ok () ↔ ∃ key value, t = .map key value ∧
      (∀ e ∈ entries, (key.check e.1).outcome = .ok ()) ∧
        ∀ e ∈ entries, (value.check e.2).outcome = .ok () := by
  constructor
  · intro h
    have hkind := kind_eq_of_check h
    cases t with
    | map key value => exact ⟨key, value, rfl, check_map_eq_ok_iff.1 h⟩
    | _ => cases hkind
  · rintro ⟨key, value, rfl, h⟩
    exact check_map_eq_ok_iff.2 h

end DataType

/-- What shows its type passes the checks of no two types. -/
theorem Determinate.eq_of_check {v : Value} (hv : Determinate v) {t u : DataType}
    (ht : (t.check (some v)).outcome = .ok ()) (hu : (u.check (some v)).outcome = .ok ()) :
    t = u := by
  induction hv generalizing t u with
  | @single v harray hmap =>
    cases v with
    | boolean | integer | bigint | double | string =>
      have htk := DataType.kind_eq_of_check ht
      have huk := DataType.kind_eq_of_check hu
      have hsimple : t.isSimple := by cases t <;> first | rfl | cases htk
      exact (DataType.eq_of_kind_eq hsimple (huk.symm.trans htk)).symm
    | decimal x =>
      obtain ⟨d, rfl, hp, hs⟩ := DataType.check_decimal_iff.1 ht
      obtain ⟨e, rfl, hp', hs'⟩ := DataType.check_decimal_iff.1 hu
      rw [DecimalType.eq_of_bounds_eq (UInt32.toNat_inj.1 (hp.trans hp'.symm)) (hs.trans hs'.symm)]
    | record slots => rw [DataType.check_record_iff.1 ht, DataType.check_record_iff.1 hu]
    | array items => exact absurd rfl harray
    | map entries => exact absurd rfl hmap
  | array hw _ ih =>
    obtain ⟨item, rfl, hitem⟩ := DataType.check_array_iff.1 ht
    obtain ⟨item', rfl, hitem'⟩ := DataType.check_array_iff.1 hu
    rw [ih (hitem _ hw) (hitem' _ hw)]
  | map hk hv _ _ ihk ihv =>
    obtain ⟨key, value, rfl, hkeys, hvalues⟩ := DataType.check_map_iff.1 ht
    obtain ⟨key', value', rfl, hkeys', hvalues'⟩ := DataType.check_map_iff.1 hu
    rw [ihk (hkeys _ hk) (hkeys' _ hk), ihv (hvalues _ hv) (hvalues' _ hv)]

/-- What shows its type in all its parts passes the check of one type at most. A decimal passes the
check of some type exactly if no more of its digits stand after the point than it has, where zero
counts as a digit, and then of the decimal type with its digits and scale alone. -/
theorem check_determines_type :
    (∀ v, Determinate v → ∀ t u : DataType, (t.check (some v)).outcome = .ok () →
      (u.check (some v)).outcome = .ok () → t = u) ∧
    (∀ x : Decimal, let digits := max 1 (Nat.digits 10 x.unscaled.natAbs).length
      ((∃ t : DataType, (t.check (some (.decimal x))).outcome = .ok ()) ↔
        x.scale.toNat ≤ digits) ∧
      ∀ t : DataType, (t.check (some (.decimal x))).outcome = .ok () ↔
        ∃ d : DecimalType, t = .decimal d ∧ d.precision.toNat = digits ∧ d.scale = x.scale) := by
  refine ⟨fun v hv t u => hv.eq_of_check, ?_⟩
  intro x digits
  have hdigits : x.precision = digits := x.precision_eq
  rw [← hdigits]
  refine ⟨⟨?_, ?_⟩, fun t => DataType.check_decimal_iff⟩
  · rintro ⟨t, ht⟩
    obtain ⟨d, -, hp, hs⟩ := DataType.check_decimal_iff.1 ht
    rw [← hp, ← hs]
    exact UInt32.le_iff_toNat_le.1 d.scale_le
  · intro hscale
    exact ⟨.decimal (x.type hscale), DataType.check_decimal_iff.2
      ⟨x.type hscale, rfl, x.toNat_ofNat_precision, rfl⟩⟩

/-- The first entry shows the type of the keys and the second that of the values, where the empty
array and NULL show nothing. No type takes a zero with two places behind the point. -/
theorem check_determines_type_entries :
    let x : Decimal := { unscaled := 123, scale := 1 }
    let zero : Decimal := { unscaled := 0, scale := 2 }
    let t : DataType := .map .string (.array (.decimal ⟨3, 1, by decide, by decide⟩))
    let v : Value := .map [(some (.string "a"), some (.array [])),
      (none, some (.array [none, some (.decimal x)]))]
    Determinate v ∧ (t.check (some v)).outcome = .ok () ∧
      (∀ u : DataType, (u.check (some v)).outcome = .ok () → t = u) ∧
      ¬ ∃ u : DataType, (u.check (some (.decimal zero))).outcome = .ok () := by
  intro x zero t v
  have hitems : Determinate (.array [none, some (.decimal x)]) :=
    .array (.tail _ (.head _)) (.single (by decide) (by decide))
  have hv : Determinate v :=
    .map (.head _) (.tail _ (.head _)) (.single (by decide) (by decide)) hitems
  have hx : ((DataType.decimal ⟨3, 1, by decide, by decide⟩).check (some (.decimal x))).outcome =
      .ok () := DataType.check_decimal_iff.2 ⟨_, rfl, by decide, rfl⟩
  have ht : (t.check (some v)).outcome = .ok () := by
    refine DataType.check_map_eq_ok_iff.2 ⟨?_, ?_⟩
    · rw [List.forall_mem_cons, List.forall_mem_singleton]
      exact ⟨rfl, rfl⟩
    · rw [List.forall_mem_cons, List.forall_mem_singleton]
      refine ⟨rfl, DataType.check_array_eq_ok_iff.2 ?_⟩
      rw [List.forall_mem_cons, List.forall_mem_singleton]
      exact ⟨rfl, hx⟩
  refine ⟨hv, ht, fun u => check_determines_type.1 v hv t u ht, ?_⟩
  rw [(check_determines_type.2 zero).1]
  decide

end SqlSchema
