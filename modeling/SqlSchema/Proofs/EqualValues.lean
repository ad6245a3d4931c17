import Mathlib.Data.List.Forall2
import SqlSchema.Proofs.Determination
import SqlSchema.Value.Stored

/-!
# Equal values

Equality goes through two values side by side (`Alike`). It is symmetric and transitive. It is not
reflexive, since a double that is no number differs from itself: a value equals itself exactly if no
such double occurs in it (`equalCells_self_iff_forall`). Nor does it say that values are the same,
since the two zeros are equal. But it keeps all that a check looks at, so equal values pass the
checks of the same types (`check_iff_of_equalCells`).
-/

namespace SqlSchema

/-! ## Doubles -/

namespace Double

variable {x y z : Double}

theorem equal_iff : x.equal y = true ↔
    x.isNaN = false ∧ y.isNaN = false ∧ (x.bits = y.bits ∨ x.isZero = true ∧ y.isZero = true) := by
  simp [equal, and_assoc]

theorem equal_trans (hxy : x.equal y = true) (hyz : y.equal z = true) : x.equal z = true := by
  obtain ⟨hx, -, hxy⟩ := equal_iff.1 hxy
  obtain ⟨-, hz, hyz⟩ := equal_iff.1 hyz
  refine equal_iff.2 ⟨hx, hz, ?_⟩
  rcases hxy with hxy | ⟨hx0, hy0⟩
  · obtain rfl : x = y := congrArg Double.mk hxy
    exact hyz
  · rcases hyz with hyz | ⟨-, hz0⟩
    · obtain rfl : y = z := congrArg Double.mk hyz
      exact Or.inr ⟨hx0, hy0⟩
    · exact Or.inr ⟨hx0, hz0⟩

end Double

/-! ## Parts -/

/-- The first optional value is a part of the second. -/
inductive PartOf : Option Value → Option Value → Prop
  | element {items : List (Option Value)} {c : Option Value} :
      c ∈ items → PartOf c (some (.array items))
  | key {entries : List (Option Value × Option Value)} {k v : Option Value} :
      (k, v) ∈ entries → PartOf k (some (.map entries))
  | value {entries : List (Option Value × Option Value)} {k v : Option Value} :
      (k, v) ∈ entries → PartOf v (some (.map entries))
  | slot {slots : List (Field × Option Value)} {f : Field} {c : Option Value} :
      (f, c) ∈ slots → PartOf c (some (.record slots))

/-- The double occurs in the optional value, at any depth. -/
inductive DoubleIn (x : Double) : Option Value → Prop
  | here : DoubleIn x (some (.double x))
  | inside {p c : Option Value} : PartOf p c → DoubleIn x p → DoubleIn x c

variable {c d e p : Option Value}

theorem PartOf.sizeOf_lt (h : PartOf p c) : sizeOf p < sizeOf c := by
  cases h with
  | element h =>
    have := List.sizeOf_lt_of_mem h
    simp only [Option.some.sizeOf_spec, Value.array.sizeOf_spec]
    omega
  | key h =>
    have := List.sizeOf_lt_of_mem h
    simp only [Option.some.sizeOf_spec, Value.map.sizeOf_spec, Prod.mk.sizeOf_spec] at this ⊢
    omega
  | value h =>
    have := List.sizeOf_lt_of_mem h
    simp only [Option.some.sizeOf_spec, Value.map.sizeOf_spec, Prod.mk.sizeOf_spec] at this ⊢
    omega
  | slot h =>
    have := List.sizeOf_lt_of_mem h
    simp only [Option.some.sizeOf_spec, Value.record.sizeOf_spec, Prod.mk.sizeOf_spec] at this ⊢
    omega

/-- What holds of a value if it holds of its parts holds of all values. -/
@[elab_as_elim]
theorem partOf_induction {motive : Option Value → Prop}
    (step : ∀ c, (∀ p, PartOf p c → motive p) → motive c) (c : Option Value) : motive c :=
  step c fun p _hp => partOf_induction step p
termination_by sizeOf c
decreasing_by exact _hp.sizeOf_lt

/-! ## Lists side by side -/

section Lists

variable {α : Type} {R : α → α → Prop} {as bs cs : List α}

theorem forall₂_symm_of_mem (hR : ∀ a ∈ as, ∀ b, R a b → R b a) (h : List.Forall₂ R as bs) :
    List.Forall₂ R bs as := by
  induction h with
  | nil => exact .nil
  | cons hab _ ih =>
    obtain ⟨ha, has⟩ := List.forall_mem_cons.1 hR
    exact .cons (ha _ hab) (ih has)

theorem forall₂_trans_of_mem (hR : ∀ a ∈ as, ∀ b c, R a b → R b c → R a c)
    (hab : List.Forall₂ R as bs) (hbc : List.Forall₂ R bs cs) : List.Forall₂ R as cs := by
  induction hab generalizing cs with
  | nil => exact hbc
  | cons hab _ ih =>
    obtain ⟨ha, has⟩ := List.forall_mem_cons.1 hR
    cases hbc with
    | cons hbc htail => exact .cons (ha _ _ hab hbc) (ih has htail)

theorem forall_mem_iff_of_forall₂ {P : α → Prop} (hP : ∀ a ∈ as, ∀ b, R a b → (P a ↔ P b))
    (h : List.Forall₂ R as bs) : (∀ a ∈ as, P a) ↔ ∀ b ∈ bs, P b := by
  induction h with
  | nil => exact Iff.rfl
  | cons hab _ ih =>
    obtain ⟨ha, has⟩ := List.forall_mem_cons.1 hP
    rw [List.forall_mem_cons, List.forall_mem_cons, ha _ hab, ih has]

end Lists

/-! ## Equality by one layer -/

/-- The value is no double and has no parts. -/
def Value.isPlain : Value → Bool
  | .boolean _ | .integer _ | .bigint _ | .decimal _ | .string _ => true
  | .double _ | .array _ | .map _ | .record _ => false

/-- The optional values are equal in the outermost layer, and so are their parts. -/
inductive Alike : Option Value → Option Value → Prop
  | null : Alike none none
  | plain {v : Value} : v.isPlain = true → Alike (some v) (some v)
  | double {x y : Double} : x.equal y = true → Alike (some (.double x)) (some (.double y))
  | array {as bs : List (Option Value)} :
      List.Forall₂ (fun a b => equalCells a b = true) as bs →
      Alike (some (.array as)) (some (.array bs))
  | map {as bs : List (Option Value × Option Value)} :
      List.Forall₂ (fun a b => equalCells a.1 b.1 = true ∧ equalCells a.2 b.2 = true) as bs →
      Alike (some (.map as)) (some (.map bs))
  | record {as bs : List (Field × Option Value)} :
      List.Forall₂ (fun a b => a.1 = b.1 ∧ equalCells a.2 b.2 = true) as bs →
      Alike (some (.record as)) (some (.record bs))

theorem equalItems_iff {as bs : List (Option Value)} :
    equalItems as bs = true ↔ List.Forall₂ (fun a b => equalCells a b = true) as bs := by
  induction as generalizing bs with
  | nil => cases bs <;> simp [equalItems]
  | cons a as ih => cases bs <;> simp [equalItems, ih]

theorem equalEntries_iff {as bs : List (Option Value × Option Value)} :
    equalEntries as bs = true ↔ List.Forall₂
      (fun a b => equalCells a.1 b.1 = true ∧ equalCells a.2 b.2 = true) as bs := by
  induction as generalizing bs with
  | nil => cases bs <;> simp [equalEntries]
  | cons a as ih =>
    cases bs with
    | nil => simp [equalEntries]
    | cons b bs =>
      obtain ⟨k, v⟩ := a
      obtain ⟨l, w⟩ := b
      simp only [equalEntries, Bool.and_eq_true, ih, List.forall₂_cons]

theorem equalSlots_iff {as bs : List (Field × Option Value)} :
    equalSlots as bs = true ↔
      List.Forall₂ (fun a b => a.1 = b.1 ∧ equalCells a.2 b.2 = true) as bs := by
  induction as generalizing bs with
  | nil => cases bs <;> simp [equalSlots]
  | cons a as ih =>
    cases bs with
    | nil => simp [equalSlots]
    | cons b bs =>
      obtain ⟨f, v⟩ := a
      obtain ⟨g, w⟩ := b
      simp only [equalSlots, Bool.and_eq_true, decide_eq_true_eq, ih, List.forall₂_cons]

theorem Value.equal_iff_of_isPlain {v w : Value} (hv : v.isPlain = true) :
    v.equal w = true ↔ v = w := by
  cases v with
  | boolean | integer | bigint | decimal | string => cases w <;> simp [Value.equal]
  | double | array | map | record => cases hv

theorem alike_of_equal {v w : Value} (h : v.equal w = true) : Alike (some v) (some w) := by
  cases v with
  | boolean | integer | bigint | decimal | string =>
    rw [Value.equal_iff_of_isPlain rfl] at h
    exact h ▸ .plain rfl
  | double x =>
    cases w with
    | double y =>
      rw [Value.equal] at h
      exact .double h
    | _ => simp [Value.equal] at h
  | array as =>
    cases w with
    | array bs =>
      rw [Value.equal, equalItems_iff] at h
      exact .array h
    | _ => simp [Value.equal] at h
  | map as =>
    cases w with
    | map bs =>
      rw [Value.equal, equalEntries_iff] at h
      exact .map h
    | _ => simp [Value.equal] at h
  | record as =>
    cases w with
    | record bs =>
      rw [Value.equal, equalSlots_iff] at h
      exact .record h
    | _ => simp [Value.equal] at h

@[simp] theorem equalCells_some (v w : Value) : equalCells (some v) (some w) = v.equal w := by
  rw [equalCells]

theorem equalCells_iff : equalCells c d = true ↔ Alike c d := by
  constructor
  · intro h
    cases c with
    | none =>
      cases d with
      | none => exact .null
      | some w => simp [equalCells] at h
    | some v =>
      cases d with
      | none => simp [equalCells] at h
      | some w =>
        rw [equalCells_some] at h
        exact alike_of_equal h
  · intro h
    cases h with
    | null => rw [equalCells]
    | plain hv => rw [equalCells_some, Value.equal_iff_of_isPlain hv]
    | double h => rwa [equalCells_some, Value.equal]
    | array h => rwa [equalCells_some, Value.equal, equalItems_iff]
    | map h => rwa [equalCells_some, Value.equal, equalEntries_iff]
    | record h => rwa [equalCells_some, Value.equal, equalSlots_iff]

/-! ## Symmetry and transitivity -/

theorem equalCells_symm (h : equalCells c d = true) : equalCells d c = true := by
  induction c using partOf_induction generalizing d with
  | step c ih =>
    rw [equalCells_iff] at h ⊢
    cases h with
    | null => exact .null
    | plain hv => exact .plain hv
    | double hxy =>
      rw [Double.equal_comm] at hxy
      exact .double hxy
    | array hitems =>
      refine .array (forall₂_symm_of_mem ?_ hitems)
      intro a ha b hab
      exact ih a (.element ha) hab
    | map hentries =>
      refine .map (forall₂_symm_of_mem ?_ hentries)
      rintro a ha b ⟨hk, hv⟩
      exact ⟨ih a.1 (.key ha) hk, ih a.2 (.value ha) hv⟩
    | record hslots =>
      refine .record (forall₂_symm_of_mem ?_ hslots)
      rintro a ha b ⟨hf, hv⟩
      exact ⟨hf.symm, ih a.2 (.slot ha) hv⟩

theorem equalCells_trans (hcd : equalCells c d = true) (hde : equalCells d e = true) :
    equalCells c e = true := by
  induction c using partOf_induction generalizing d e with
  | step c ih =>
    rw [equalCells_iff] at hcd hde ⊢
    cases hcd with
    | null => exact hde
    | plain hv => exact hde
    | double hxy =>
      -- Equal doubles may have different bits, so `hde` is not what is to be shown.
      cases hde with
      | plain hv => cases hv
      | double hyz => exact .double (Double.equal_trans hxy hyz)
    | array hitems =>
      cases hde with
      | plain hv => cases hv
      | array hitems' =>
        refine .array (forall₂_trans_of_mem ?_ hitems hitems')
        intro a ha b c hab hbc
        exact ih a (.element ha) hab hbc
    | map hentries =>
      cases hde with
      | plain hv => cases hv
      | map hentries' =>
        refine .map (forall₂_trans_of_mem ?_ hentries hentries')
        rintro a ha b c ⟨hk, hv⟩ ⟨hk', hv'⟩
        exact ⟨ih a.1 (.key ha) hk hk', ih a.2 (.value ha) hv hv'⟩
    | record hslots =>
      cases hde with
      | plain hv => cases hv
      | record hslots' =>
        refine .record (forall₂_trans_of_mem ?_ hslots hslots')
        rintro a ha b c ⟨hf, hv⟩ ⟨hf', hv'⟩
        exact ⟨hf.trans hf', ih a.2 (.slot ha) hv hv'⟩

/-! ## Equality with itself -/

theorem equalCells_self_iff : equalCells c c = true ↔
    (∀ x, c = some (.double x) → x.isNaN = false) ∧ ∀ p, PartOf p c → equalCells p p = true := by
  constructor
  · intro h
    constructor
    · rintro x rfl
      rwa [equalCells_some, Value.equal, Double.equal_self, Bool.not_eq_true'] at h
    · intro p hp
      cases hp with
      | element hp =>
        rw [equalCells_some, Value.equal, equalItems_iff, List.forall₂_same] at h
        exact h p hp
      | key hp =>
        rw [equalCells_some, Value.equal, equalEntries_iff, List.forall₂_same] at h
        exact (h _ hp).1
      | value hp =>
        rw [equalCells_some, Value.equal, equalEntries_iff, List.forall₂_same] at h
        exact (h _ hp).2
      | slot hp =>
        rw [equalCells_some, Value.equal, equalSlots_iff, List.forall₂_same] at h
        exact (h _ hp).2
  · rintro ⟨hx, hparts⟩
    rw [equalCells_iff]
    cases c with
    | none => exact .null
    | some v =>
      cases v with
      | boolean | integer | bigint | decimal | string => exact .plain rfl
      | double x =>
        refine .double ?_
        rw [Double.equal_self, hx x rfl]
        rfl
      | array items =>
        refine .array (List.forall₂_same.2 ?_)
        intro a ha
        exact hparts a (.element ha)
      | map entries =>
        refine .map (List.forall₂_same.2 ?_)
        intro a ha
        exact ⟨hparts a.1 (.key ha), hparts a.2 (.value ha)⟩
      | record slots =>
        refine .record (List.forall₂_same.2 ?_)
        intro a ha
        exact ⟨rfl, hparts a.2 (.slot ha)⟩

/-- A value equals itself exactly if all doubles in it are numbers. -/
theorem equalCells_self_iff_forall :
    equalCells c c = true ↔ ∀ x, DoubleIn x c → x.isNaN = false := by
  constructor
  · intro h x hx
    induction hx with
    | here => exact (equalCells_self_iff.1 h).1 x rfl
    | inside hp _ ih => exact ih ((equalCells_self_iff.1 h).2 _ hp)
  · intro h
    induction c using partOf_induction with
    | step c ih =>
      refine equalCells_self_iff.2 ⟨?_, ?_⟩
      · rintro x rfl
        exact h x .here
      · intro p hp
        exact ih p hp fun x hx => h x (.inside hp hx)

/-! ## Checks of equal values -/

theorem DataType.check_double_iff {t : DataType} {x : Double} :
    (t.check (some (.double x))).outcome = .ok () ↔ t = .double := by
  constructor
  · intro h
    have hkind := kind_eq_of_check h
    cases t <;> first | rfl | cases hkind
  · rintro rfl
    rfl

theorem check_iff_of_equalCells (h : equalCells c d = true) (t : DataType) :
    (t.check c).outcome = .ok () ↔ (t.check d).outcome = .ok () := by
  induction c using partOf_induction generalizing d t with
  | step c ih =>
    rw [equalCells_iff] at h
    cases h with
    | null => exact Iff.rfl
    | plain hv => exact Iff.rfl
    | double hxy => rw [DataType.check_double_iff, DataType.check_double_iff]
    | array hitems =>
      have hpass : ∀ item : DataType, _ := fun item =>
        forall_mem_iff_of_forall₂ (P := fun a => (item.check a).outcome = .ok ())
          (fun a ha b hab => ih a (.element ha) hab item) hitems
      simp only [DataType.check_array_iff, hpass]
    | map hentries =>
      have hkeys : ∀ key : DataType, _ := fun key =>
        forall_mem_iff_of_forall₂ (P := fun a => (key.check a.1).outcome = .ok ())
          (fun a ha b hab => ih a.1 (.key ha) hab.1 key) hentries
      have hvalues : ∀ value : DataType, _ := fun value =>
        forall_mem_iff_of_forall₂ (P := fun a => (value.check a.2).outcome = .ok ())
          (fun a ha b hab => ih a.2 (.value ha) hab.2 value) hentries
      simp only [DataType.check_map_iff, hkeys, hvalues]
    | @record as bs hslots =>
      have hfields : as.map Prod.fst = bs.map Prod.fst := by
        rw [← List.forall₂_eq_eq_eq, List.forall₂_map_left_iff, List.forall₂_map_right_iff]
        exact hslots.imp fun a b hab => hab.1
      rw [DataType.check_record_iff, DataType.check_record_iff, hfields]

/-! ## Stored records -/

theorem equalSlots_zip_iff {fs gs : List Field} {cs ds : List (Option Value)}
    (hc : cs.length = fs.length) (hd : ds.length = gs.length) :
    equalSlots (fs.zip cs) (gs.zip ds) = true ↔ fs = gs ∧ equalItems cs ds = true := by
  induction fs generalizing gs cs ds with
  | nil =>
    obtain rfl := List.eq_nil_of_length_eq_zero hc
    cases gs with
    | nil =>
      obtain rfl := List.eq_nil_of_length_eq_zero hd
      simp [equalSlots, equalItems]
    | cons g gs =>
      obtain ⟨d, ds, rfl⟩ := List.exists_cons_of_length_eq_add_one hd
      simp [equalSlots]
  | cons f fs ih =>
    obtain ⟨c, cs, rfl⟩ := List.exists_cons_of_length_eq_add_one hc
    cases gs with
    | nil =>
      obtain rfl := List.eq_nil_of_length_eq_zero hd
      simp [equalSlots]
    | cons g gs =>
      obtain ⟨d, ds, rfl⟩ := List.exists_cons_of_length_eq_add_one hd
      have htail := ih (Nat.succ.inj hc) (Nat.succ.inj hd)
      simp only [List.zip_cons_cons, equalSlots, equalItems, Bool.and_eq_true, decide_eq_true_eq,
        htail, List.cons.injEq]
      tauto

theorem StoredRecord.equal_toValue_iff (r r' : StoredRecord) :
    r.toValue.equal r'.toValue = true ↔
      r.schema.same r'.schema = true ∧ equalItems r.contents r'.contents = true := by
  unfold toValue Record.toValue record IndexedFields.same
  rw [Value.equal, equalSlots_zip_iff r.length_contents r'.length_contents, decide_eq_true_eq]

/-! ## The laws -/

/-- Equality of values is symmetric and transitive. A value equals itself exactly if no double that
is no number occurs in it. Equal values pass the checks of the same types. -/
theorem equality_laws :
    (∀ v w : Value, v.equal w = true → w.equal v = true) ∧
    (∀ u v w : Value, u.equal v = true → v.equal w = true → u.equal w = true) ∧
    (∀ v : Value, v.equal v = true ↔ ∀ x, DoubleIn x (some v) → x.isNaN = false) ∧
    ∀ v w : Value, v.equal w = true → ∀ t : DataType,
      (t.check (some v)).outcome = .ok () ↔ (t.check (some w)).outcome = .ok () := by
  simp only [← equalCells_some]
  refine ⟨?_, ?_, ?_, ?_⟩
  · intro v w
    exact equalCells_symm
  · intro u v w
    exact equalCells_trans
  · intro v
    exact equalCells_self_iff_forall
  · intro v w
    exact check_iff_of_equalCells

/-- Two values that have different zeros in them are equal, and so fit the same types. An array with
a double that is no number in it does not equal itself. -/
theorem equality_laws_zeros :
    let v : Value := .map [(some (.string "a"), some (.array [none, some (.double ⟨0⟩)]))]
    let w : Value := .map [(some (.string "a"), some (.array [none,
      some (.double ⟨0x8000000000000000⟩)]))]
    let t : DataType := .map .string (.array .double)
    let u : Value := .array [some (.integer 1), some (.double ⟨0x7FF8000000000000⟩)]
    v.equal w = true ∧ w.equal v = true ∧ w.equal w = true ∧ v ≠ w ∧
      (t.check (some v)).outcome = .ok () ∧ (t.check (some w)).outcome = .ok () ∧
      u.equal u ≠ true := by
  intro v w t u
  obtain ⟨hsymm, htrans, hself, hcheck⟩ := equality_laws
  have hzeros : (Double.mk 0).equal ⟨0x8000000000000000⟩ = true := by decide
  have hvw : v.equal w = true := by
    simp [v, w, Value.equal, equalEntries, equalCells, equalItems, hzeros]
  have hwv : w.equal v = true := hsymm v w hvw
  have hv : (t.check (some v)).outcome = .ok () := rfl
  refine ⟨hvw, hwv, htrans w v w hwv hvw, ?_, hv, (hcheck v w hvw t).1 hv, ?_⟩
  · simp [v, w]
  · intro h
    have hnan := (hself u).1 h _ (.inside (.element (.tail _ (.head _))) .here)
    exact absurd hnan (by decide)

end SqlSchema
