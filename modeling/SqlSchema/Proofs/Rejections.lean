import SqlSchema.Proofs.Outcomes
import SqlSchema.Value.Check

/-!
# What a rejection names

A check that fails names a place in the value and tells what was expected and found there. The
places lead from the outside in to a part that its own type refuses, and whatever comes before this
part or before a container around it is accepted. There is no other way to such a part
(`rejection_names_first_fault`).
-/

namespace SqlSchema

/-- The type is none of the decimals and containers. -/
def DataType.isSimple : DataType → Bool
  | .boolean | .integer | .bigint | .double | .string => true
  | .decimal _ | .array _ | .map _ _ | .struct _ => false

theorem DataType.eq_of_kind_eq {t u : DataType} (ht : t.isSimple) (h : u.kind = t.kind) :
    u = t := by
  cases t with
  | boolean | integer | bigint | double | string => cases u <;> first | rfl | cases h
  | decimal | array | map | struct => cases ht

/-- The type refuses the value whatever its parts are, with these words for what it expects and what
it found: the kind of the value, then the digits of a decimal, then its places behind the point, or
the fields of a record. -/
inductive Refuses (classify : Classifier) : DataType → Value → String → String → Prop
  | simple {t : DataType} {v : Value} : t.isSimple → classify v ≠ t.kind →
      Refuses classify t v t.kind.label (classify v).label
  | kind {t : DataType} {v : Value} : t.isSimple = false → v.kind ≠ t.kind →
      Refuses classify t v t.kind.label (classify v).label
  | precision {d : DecimalType} {x : Decimal} : x.precision ≠ d.precision.toNat →
      Refuses classify (.decimal d) (.decimal x) d.text ("precision " ++ toString x.precision)
  | scale {d : DecimalType} {x : Decimal} : x.precision = d.precision.toNat → x.scale ≠ d.scale →
      Refuses classify (.decimal d) (.decimal x) d.text ("scale " ++ toString x.scale.toNat)
  | fields {fields : List Field} {slots : List (Field × Option Value)} :
      slots.map Prod.fst ≠ fields →
      Refuses classify (.struct fields) (.record slots) (DataType.struct fields).text
        (DataType.struct (slots.map Prod.fst)).text

/-- A part of a value with the type that it is to fit, if all parts before it are accepted. The
words name the part. -/
inductive PartAt (classify : Classifier) : DataType → Value → String → DataType → Value → Prop
  | element {item : DataType} {before after : List (Option Value)} {w : Value} :
      (∀ c ∈ before, (item.checkWith classify c).outcome = .ok ()) →
      PartAt classify (.array item) (.array (before ++ some w :: after))
        ("ARRAY element " ++ toString (before.length + 1)) item w
  | mapKey {key value : DataType} {before after : List (Option Value × Option Value)} {w : Value}
      {x : Option Value} :
      (∀ e ∈ before, (key.checkWith classify e.1).outcome = .ok () ∧
        (value.checkWith classify e.2).outcome = .ok ()) →
      PartAt classify (.map key value) (.map (before ++ (some w, x) :: after)) "MAP key" key w
  | mapValue {key value : DataType} {before after : List (Option Value × Option Value)}
      {k : Option Value} {w : Value} :
      (∀ e ∈ before, (key.checkWith classify e.1).outcome = .ok () ∧
        (value.checkWith classify e.2).outcome = .ok ()) →
      (key.checkWith classify k).outcome = .ok () →
      PartAt classify (.map key value) (.map (before ++ (k, some w) :: after))
        ("MAP value for key '" ++ cellText k ++ "'") value w

/-- The words name parts from the outside in, which lead from a value of a type to a value inside of
it and the type of that. -/
inductive PathTo (classify : Classifier) : DataType → Value → List String → DataType → Value → Prop
  | here (t : DataType) (v : Value) : PathTo classify t v [] t v
  | part {t u u' : DataType} {v w w' : Value} {place : String} {places : List String} :
      PartAt classify t v place u w → PathTo classify u w places u' w' →
      PathTo classify t v (place :: places) u' w'

/-- The error is a mismatch behind these places. -/
inductive DataError.Says : DataError → List String → String → String → Prop
  | mismatch (expected found : Shape) : Says (.mismatch expected found) [] expected.text found.text
  | nested (place : Place) {e : DataError} {places : List String} {expected found : String} :
      Says e places expected found → Says (.nested place e) (place.text :: places) expected found

/-! ## The first failure in a list -/

/-- Some element of the list is at fault, told by its position, and all before it are good. -/
def FirstFault {α : Type} (good : α → Prop) (fault : Nat → α → Prop) (l : List α) : Prop :=
  ∃ before a after, l = before ++ a :: after ∧ (∀ b ∈ before, good b) ∧ fault before.length a

theorem not_firstFault_nil {α : Type} (good : α → Prop) (fault : Nat → α → Prop) :
    ¬ FirstFault good fault [] := by
  rintro ⟨before, a, after, h, -⟩
  simp at h

theorem firstFault_cons_iff {α : Type} {good : α → Prop} {fault : Nat → α → Prop} {a : α}
    {l : List α} : FirstFault good fault (a :: l) ↔
      fault 0 a ∨ good a ∧ FirstFault good (fun i => fault (i + 1)) l := by
  constructor
  · rintro ⟨before, b, after, h, hbefore, hb⟩
    cases before with
    | nil =>
      obtain ⟨rfl, rfl⟩ := List.cons.inj h
      exact Or.inl hb
    | cons c before =>
      obtain ⟨rfl, rfl⟩ := List.cons.inj h
      obtain ⟨hc, hbefore⟩ := List.forall_mem_cons.1 hbefore
      exact Or.inr ⟨hc, before, b, after, rfl, hbefore, hb⟩
  · rintro (ha | ⟨ha, before, b, after, rfl, hbefore, hb⟩)
    · exact ⟨[], a, l, rfl, by simp, ha⟩
    · exact ⟨a :: before, b, after, rfl, List.forall_mem_cons.2 ⟨ha, hbefore⟩, hb⟩

theorem checkItems_eq_error_iff {check : Option Value → Check} {index : Nat}
    {items : List (Option Value)} {e : DataError} :
    (checkItems check index items).outcome = .error e ↔
      FirstFault (fun c => (check c).outcome = .ok ())
        (fun i c => ∃ d, (check c).outcome = .error d ∧ .nested (.element (index + i)) d = e)
        items := by
  induction items generalizing index with
  | nil => simp [checkItems, not_firstFault_nil]
  | cons c cs ih =>
    simp only [checkItems, check_bind_eq_error_iff, Logged.outcome_mapError, mapError_eq_error_iff,
      mapError_eq_ok_iff, ih, firstFault_cons_iff, Nat.add_zero, Nat.add_assoc, Nat.add_comm 1]

/-- Entries fail at the first one that does: at its key or, if this passes, at its value. -/
theorem checkEntries_eq_error_iff {checkKey checkValue : Option Value → Check}
    {entries : List (Option Value × Option Value)} {e : DataError} :
    (checkEntries checkKey checkValue entries).outcome = .error e ↔
      FirstFault (fun entry => (checkKey entry.1).outcome = .ok () ∧
          (checkValue entry.2).outcome = .ok ())
        (fun _ entry => (∃ d, (checkKey entry.1).outcome = .error d ∧ .nested .mapKey d = e) ∨
          (checkKey entry.1).outcome = .ok () ∧
            ∃ d, (checkValue entry.2).outcome = .error d ∧ .nested (.mapValue entry.1) d = e)
        entries := by
  induction entries with
  | nil => simp [checkEntries, not_firstFault_nil]
  | cons entry es ih =>
    obtain ⟨k, x⟩ := entry
    simp only [checkEntries, check_bind_eq_error_iff, Logged.outcome_mapError,
      mapError_eq_error_iff, mapError_eq_ok_iff, ih, firstFault_cons_iff]
    simp only [and_or_left, or_assoc, and_assoc]

/-! ## One level -/

namespace DataType

variable {classify : Classifier}

theorem outcome_checkValue_of_isSimple {t : DataType} (h : t.isSimple) (v : Value) :
    (t.checkValue classify v).outcome = if classify v = t.kind then .ok ()
      else .error (.mismatch (.kind t.kind) (.kind (classify v))) := by
  cases t with
  | boolean | integer | bigint | double | string =>
    simp only [checkValue, Logged.outcome_onError]
    split <;> rfl
  | decimal | array | map | struct => cases h

theorem outcome_checkValue_of_kind_ne {t : DataType} {v : Value} (h : t.isSimple = false)
    (hv : v.kind ≠ t.kind) : (t.checkValue classify v).outcome =
      .error (.mismatch (.kind t.kind) (.kind (classify v))) := by
  cases t with
  | boolean | integer | bigint | double | string => cases h
  | decimal | array | map | struct =>
    cases v <;> first | rfl | exact absurd rfl hv

theorem outcome_checkValue_decimal (d : DecimalType) (x : Decimal) :
    ((decimal d).checkValue classify (.decimal x)).outcome = (d.check x).outcome := by
  simp only [checkValue, Logged.outcome_onError]

theorem outcome_checkValue_array (item : DataType) (items : List (Option Value)) :
    ((array item).checkValue classify (.array items)).outcome =
      (checkItems (item.checkWith classify) 0 items).outcome := by
  simp only [checkValue, Logged.outcome_onError]
  rfl

theorem outcome_checkValue_map (key value : DataType)
    (entries : List (Option Value × Option Value)) :
    ((map key value).checkValue classify (.map entries)).outcome =
      (checkEntries (key.checkWith classify) (value.checkWith classify) entries).outcome := by
  simp only [checkValue, Logged.outcome_onError]
  rfl

theorem outcome_checkValue_struct (fields : List Field) (slots : List (Field × Option Value)) :
    ((struct fields).checkValue classify (.record slots)).outcome =
      (checkFields fields (slots.map Prod.fst)).outcome := by
  simp only [checkValue, Logged.outcome_onError]

theorem exists_value_of_error {t : DataType} {c : Option Value} {e : DataError}
    (h : (t.checkWith classify c).outcome = .error e) :
    ∃ v, c = some v ∧ (t.checkValue classify v).outcome = .error e := by
  cases c with
  | none => cases h
  | some v => exact ⟨v, rfl, h⟩

end DataType

theorem DecimalType.check_eq_error_iff {d : DecimalType} {x : Decimal} {e : DataError} :
    (d.check x).outcome = .error e ↔
      (x.precision ≠ d.precision.toNat ∧
        e = .mismatch (.type (.decimal d)) (.precision x.precision)) ∨
      (x.precision = d.precision.toNat ∧ x.scale ≠ d.scale ∧
        e = .mismatch (.type (.decimal d)) (.scale x.scale)) := by
  unfold DecimalType.check
  by_cases hp : x.precision = d.precision.toNat
  · by_cases hs : x.scale = d.scale
    · simp [hp, hs]
    · simp [hp, hs, Check.mismatch, eq_comm]
  · simp [hp, Check.mismatch, eq_comm]

theorem checkFields_eq_error_iff {fields found : List Field} {e : DataError} :
    (checkFields fields found).outcome = .error e ↔
      found ≠ fields ∧ e = .mismatch (.type (.struct fields)) (.type (.struct found)) := by
  unfold checkFields
  by_cases h : found = fields
  · simp [h]
  · simp [h, Check.mismatch, eq_comm]

section

variable {classify : Classifier} {t u : DataType} {v w : Value}

/-- An error either is the refusal of a type itself or comes from a part. -/
theorem DataType.refuses_or_partAt {e : DataError}
    (h : (t.checkValue classify v).outcome = .error e) :
    (∃ expected found, e = .mismatch expected found ∧
      Refuses classify t v expected.text found.text) ∨
    ∃ place u w d, e = .nested place d ∧ PartAt classify t v place.text u w ∧
      (u.checkValue classify w).outcome = .error d := by
  by_cases hsimple : t.isSimple
  · rw [outcome_checkValue_of_isSimple hsimple] at h
    split at h
    · cases h
    · next hkind => exact Or.inl ⟨_, _, (Except.error.inj h).symm, .simple hsimple hkind⟩
  · rw [Bool.not_eq_true] at hsimple
    by_cases hkind : v.kind = t.kind
    · cases t with
      | boolean | integer | bigint | double | string => cases hsimple
      | decimal d =>
        cases v with
        | decimal x =>
          rw [outcome_checkValue_decimal] at h
          rcases DecimalType.check_eq_error_iff.1 h with ⟨hp, rfl⟩ | ⟨hp, hs, rfl⟩
          · exact Or.inl ⟨_, _, rfl, .precision hp⟩
          · exact Or.inl ⟨_, _, rfl, .scale hp hs⟩
        | _ => cases hkind
      | array item =>
        cases v with
        | array items =>
          rw [outcome_checkValue_array] at h
          obtain ⟨before, c, after, rfl, hbefore, d, hd, rfl⟩ := checkItems_eq_error_iff.1 h
          obtain ⟨w, rfl, hw⟩ := exists_value_of_error hd
          refine Or.inr ⟨_, item, w, d, rfl, ?_, hw⟩
          rw [Nat.zero_add]
          exact .element hbefore
        | _ => cases hkind
      | map key value =>
        cases v with
        | map entries =>
          rw [outcome_checkValue_map] at h
          obtain ⟨before, ⟨k, x⟩, after, rfl, hbefore, hfault⟩ := checkEntries_eq_error_iff.1 h
          rcases hfault with ⟨d, hd, rfl⟩ | ⟨hk, d, hd, rfl⟩
          · obtain ⟨w, rfl, hw⟩ := exists_value_of_error hd
            exact Or.inr ⟨_, key, w, d, rfl, .mapKey hbefore, hw⟩
          · obtain ⟨w, rfl, hw⟩ := exists_value_of_error hd
            exact Or.inr ⟨_, value, w, d, rfl, .mapValue hbefore hk, hw⟩
        | _ => cases hkind
      | struct fields =>
        cases v with
        | record slots =>
          rw [outcome_checkValue_struct] at h
          obtain ⟨hfields, rfl⟩ := checkFields_eq_error_iff.1 h
          exact Or.inl ⟨_, _, rfl, .fields hfields⟩
        | _ => cases hkind
    · rw [outcome_checkValue_of_kind_ne hsimple hkind] at h
      exact Or.inl ⟨_, _, (Except.error.inj h).symm, .kind hsimple hkind⟩

theorem Refuses.exists_error {expected found : String}
    (h : Refuses classify t v expected found) :
    ∃ e, (t.checkValue classify v).outcome = .error e ∧ e.Says [] expected found := by
  cases h with
  | simple hsimple hkind =>
    exact ⟨_, (DataType.outcome_checkValue_of_isSimple hsimple v).trans (if_neg hkind),
      .mismatch (.kind t.kind) (.kind (classify v))⟩
  | kind hsimple hkind =>
    exact ⟨_, DataType.outcome_checkValue_of_kind_ne hsimple hkind,
      .mismatch (.kind t.kind) (.kind (classify v))⟩
  | @precision d x hp =>
    exact ⟨_, (DataType.outcome_checkValue_decimal d x).trans
      (DecimalType.check_eq_error_iff.2 (Or.inl ⟨hp, rfl⟩)),
      .mismatch (.type (.decimal d)) (.precision x.precision)⟩
  | @scale d x hp hs =>
    exact ⟨_, (DataType.outcome_checkValue_decimal d x).trans
      (DecimalType.check_eq_error_iff.2 (Or.inr ⟨hp, hs, rfl⟩)),
      .mismatch (.type (.decimal d)) (.scale x.scale)⟩
  | @fields fields slots hfields =>
    exact ⟨_, (DataType.outcome_checkValue_struct fields slots).trans
      (checkFields_eq_error_iff.2 ⟨hfields, rfl⟩),
      .mismatch (.type (.struct fields)) (.type (.struct (slots.map Prod.fst)))⟩

/-- The error of a part is passed on with the place of the part in front. -/
theorem PartAt.exists_error {words : String} {d : DataError}
    (h : PartAt classify t v words u w) (hd : (u.checkValue classify w).outcome = .error d) :
    ∃ place : Place, place.text = words ∧
      (t.checkValue classify v).outcome = .error (.nested place d) := by
  cases h with
  | @element _ before after _ hbefore =>
    refine ⟨.element before.length, rfl, ?_⟩
    rw [DataType.outcome_checkValue_array]
    exact checkItems_eq_error_iff.2
      ⟨before, _, after, rfl, hbefore, d, hd, by rw [Nat.zero_add]⟩
  | @mapKey _ _ before after _ x hbefore =>
    refine ⟨.mapKey, rfl, ?_⟩
    rw [DataType.outcome_checkValue_map]
    exact checkEntries_eq_error_iff.2
      ⟨before, (_, x), after, rfl, hbefore, Or.inl ⟨d, hd, rfl⟩⟩
  | @mapValue _ _ before after k _ hbefore hk =>
    refine ⟨.mapValue k, rfl, ?_⟩
    rw [DataType.outcome_checkValue_map]
    exact checkEntries_eq_error_iff.2
      ⟨before, (k, _), after, rfl, hbefore, Or.inr ⟨hk, d, hd, rfl⟩⟩

/-! ## The whole way -/

/-- An error leads to a refused part. The induction is on the error, whose places are those of the
levels that it came through. -/
theorem DataError.exists_pathTo {e : DataError} (h : (t.checkValue classify v).outcome = .error e) :
    ∃ places u w expected found, e.Says places expected found ∧
      PathTo classify t v places u w ∧ Refuses classify u w expected found := by
  induction e generalizing t v with
  | mismatch expected found =>
    rcases DataType.refuses_or_partAt h with ⟨_, _, he, hrefuses⟩ | ⟨_, _, _, _, he, -⟩
    · obtain ⟨rfl, rfl⟩ := DataError.mismatch.inj he
      exact ⟨[], t, v, _, _, .mismatch expected found, .here t v, hrefuses⟩
    · cases he
  | unknownField name =>
    rcases DataType.refuses_or_partAt h with ⟨_, _, he, -⟩ | ⟨_, _, _, _, he, -⟩ <;> cases he
  | nested place d ih =>
    rcases DataType.refuses_or_partAt h with ⟨_, _, he, -⟩ | ⟨_, u, w, _, he, hpart, hd⟩
    · cases he
    · obtain ⟨rfl, rfl⟩ := DataError.nested.inj he
      obtain ⟨places, u', w', expected, found, hsays, hpath, hrefuses⟩ := ih hd
      exact ⟨_, u', w', expected, found, .nested place hsays, .part hpart hpath, hrefuses⟩

/-- A way to a refused part makes the check fail with it. -/
theorem PathTo.exists_error {places : List String} {expected found : String}
    (h : PathTo classify t v places u w) (hrefuses : Refuses classify u w expected found) :
    ∃ e, (t.checkValue classify v).outcome = .error e ∧ e.Says places expected found := by
  induction h with
  | here t v => exact hrefuses.exists_error
  | part hpart hpath ih =>
    obtain ⟨d, hd, hsays⟩ := ih hrefuses
    obtain ⟨place, rfl, he⟩ := hpart.exists_error hd
    exact ⟨_, he, .nested place hsays⟩

end

/-- An error of a check is a mismatch behind places that lead to the first part which its own type
refuses, and the mismatch tells why. Where there is a way to such a part, the check fails and names
it. -/
theorem rejection_names_first_fault (classify : Classifier) (t : DataType) (c : Option Value) :
    (∀ e, (t.checkWith classify c).outcome = .error e →
      ∃ v places u w expected found, c = some v ∧ e.Says places expected found ∧
        PathTo classify t v places u w ∧ Refuses classify u w expected found) ∧
    (∀ v places u w expected found, c = some v → PathTo classify t v places u w →
      Refuses classify u w expected found →
      ∃ e, (t.checkWith classify c).outcome = .error e ∧ e.Says places expected found) := by
  constructor
  · intro e h
    obtain ⟨v, rfl, hv⟩ := DataType.exists_value_of_error h
    obtain ⟨places, u, w, expected, found, hsays, hpath, hrefuses⟩ := DataError.exists_pathTo hv
    exact ⟨v, places, u, w, expected, found, rfl, hsays, hpath, hrefuses⟩
  · rintro v places u w expected found rfl hpath hrefuses
    exact hpath.exists_error hrefuses

/-- The first entry passes. In the second, whose key is NULL, the second element is no number. The
third entry, whose key is no text, is not looked at. -/
theorem rejection_names_element :
    let t : DataType := .map .string (.array .integer)
    let v : Value := .map [(some (.string "a"), none),
      (none, some (.array [none, some (.boolean true)])), (some (.integer 1), none)]
    (t.check (some v)).outcome = .error (.nested (.mapValue none) (.nested (.element 1)
      (.mismatch (.kind .integer) (.kind .boolean)))) ∧
    ∃ u w, PathTo Value.kind t v ["MAP value for key 'NULL'", "ARRAY element 2"] u w ∧
      Refuses Value.kind u w "INTEGER" "BOOLEAN" := by
  intro t v
  have he : (t.check (some v)).outcome = .error (.nested (.mapValue none) (.nested (.element 1)
      (.mismatch (.kind .integer) (.kind .boolean)))) := rfl
  obtain ⟨v', places, u, w, expected, found, hv, hsays, hpath, hrefuses⟩ :=
    (rejection_names_first_fault Value.kind t (some v)).1 _ he
  obtain rfl := Option.some.inj hv
  -- The error determines the words for the places and for the mismatch.
  cases hsays with
  | nested _ hsays =>
    cases hsays with
    | nested _ hsays =>
      cases hsays with
      | mismatch => exact ⟨he, u, w, hpath, hrefuses⟩

end SqlSchema
