import Mathlib.Data.List.Nodup
import SqlSchema.Proofs.Outcomes
import SqlSchema.Value.Record

/-!
# Deep conformance

`Fits t c` says that an optional value conforms to a type in all its parts, also in the slots of
records. A check never looks into a record, and need not: what a slot holds was checked when it was
set. So for values whose records were all built by setting fields (`Built`), a check passes exactly
if the value conforms (`check_eq_ok_iff_fits`).
-/

namespace SqlSchema

/-- The optional value conforms to the type. -/
inductive Fits : DataType → Option Value → Prop
  | null (t : DataType) : Fits t none
  | boolean (b : Bool) : Fits .boolean (some (.boolean b))
  | integer (n : Int32) : Fits .integer (some (.integer n))
  | bigint (n : Int64) : Fits .bigint (some (.bigint n))
  | double (x : Double) : Fits .double (some (.double x))
  | string (s : String) : Fits .string (some (.string s))
  | decimal {d : DecimalType} {x : Decimal} : x.precision = d.precision.toNat →
      x.scale = d.scale → Fits (.decimal d) (some (.decimal x))
  | array {item : DataType} {items : List (Option Value)} : (∀ c ∈ items, Fits item c) →
      Fits (.array item) (some (.array items))
  | map {key value : DataType} {entries : List (Option Value × Option Value)} :
      (∀ e ∈ entries, Fits key e.1) → (∀ e ∈ entries, Fits value e.2) →
      Fits (.map key value) (some (.map entries))
  | record {slots : List (Field × Option Value)} : (∀ s ∈ slots, Fits s.1.type s.2) →
      Fits (.struct (slots.map Prod.fst)) (some (.record slots))

mutual

/-- Each record in the optional value, at any depth, was built. -/
inductive Built : Option Value → Prop
  | null : Built none
  | boolean (b : Bool) : Built (some (.boolean b))
  | integer (n : Int32) : Built (some (.integer n))
  | bigint (n : Int64) : Built (some (.bigint n))
  | double (x : Double) : Built (some (.double x))
  | decimal (d : Decimal) : Built (some (.decimal d))
  | string (s : String) : Built (some (.string s))
  | array {items : List (Option Value)} : (∀ c ∈ items, Built c) → Built (some (.array items))
  | map {entries : List (Option Value × Option Value)} : (∀ e ∈ entries, Built e.1) →
      (∀ e ∈ entries, Built e.2) → Built (some (.map entries))
  | record {r : Record} : BuiltRecord r → Built (some r.toValue)

/-- The record was blank and then had fields set, one after the other. -/
inductive BuiltRecord : Record → Prop
  | blank (l : FieldList) : BuiltRecord (.blank l.fields)
  | set {r r' : Record} {name : String} {c : Option Value} : BuiltRecord r → Built c →
      (r.set name c).outcome = .ok r' → BuiltRecord r'

end

/-- The slots of each record that stands in no other record conform to their fields. -/
inductive RecordsFit : Option Value → Prop
  | null : RecordsFit none
  | boolean (b : Bool) : RecordsFit (some (.boolean b))
  | integer (n : Int32) : RecordsFit (some (.integer n))
  | bigint (n : Int64) : RecordsFit (some (.bigint n))
  | double (x : Double) : RecordsFit (some (.double x))
  | decimal (d : Decimal) : RecordsFit (some (.decimal d))
  | string (s : String) : RecordsFit (some (.string s))
  | array {items : List (Option Value)} : (∀ c ∈ items, RecordsFit c) →
      RecordsFit (some (.array items))
  | map {entries : List (Option Value × Option Value)} : (∀ e ∈ entries, RecordsFit e.1) →
      (∀ e ∈ entries, RecordsFit e.2) → RecordsFit (some (.map entries))
  | record {slots : List (Field × Option Value)} : (∀ s ∈ slots, Fits s.1.type s.2) →
      RecordsFit (some (.record slots))

/-! ## Passing checks -/

theorem checkItems_eq_ok_iff {check : Option Value → Check} {index : Nat}
    {items : List (Option Value)} : (checkItems check index items).outcome = .ok () ↔
      ∀ c ∈ items, (check c).outcome = .ok () := by
  induction items generalizing index with
  | nil => simp [checkItems]
  | cons c cs ih =>
    rw [checkItems, check_bind_eq_ok_iff, Logged.outcome_mapError, mapError_eq_ok_iff, ih,
      List.forall_mem_cons]

theorem checkEntries_eq_ok_iff {checkKey checkValue : Option Value → Check}
    {entries : List (Option Value × Option Value)} :
    (checkEntries checkKey checkValue entries).outcome = .ok () ↔
      (∀ e ∈ entries, (checkKey e.1).outcome = .ok ()) ∧
        ∀ e ∈ entries, (checkValue e.2).outcome = .ok () := by
  induction entries with
  | nil => simp [checkEntries]
  | cons e es ih =>
    rw [checkEntries, check_bind_eq_ok_iff, check_bind_eq_ok_iff, Logged.outcome_mapError,
      Logged.outcome_mapError, mapError_eq_ok_iff, mapError_eq_ok_iff, ih, List.forall_mem_cons,
      List.forall_mem_cons]
    exact ⟨fun ⟨hk, hv, hks, hvs⟩ => ⟨⟨hk, hks⟩, hv, hvs⟩,
      fun ⟨⟨hk, hks⟩, hv, hvs⟩ => ⟨hk, hv, hks, hvs⟩⟩

theorem DecimalType.check_eq_ok_iff {d : DecimalType} {x : Decimal} :
    (d.check x).outcome = .ok () ↔ x.precision = d.precision.toNat ∧ x.scale = d.scale := by
  unfold DecimalType.check
  by_cases hp : x.precision = d.precision.toNat
  · by_cases hs : x.scale = d.scale
    · simp [hp, hs]
    · simp [hp, hs, Check.mismatch]
  · simp [hp, Check.mismatch]

theorem checkFields_eq_ok_iff {fields found : List Field} :
    (checkFields fields found).outcome = .ok () ↔ found = fields := by
  unfold checkFields
  by_cases h : found = fields
  · simp [h]
  · simp [h, Check.mismatch]

namespace DataType

theorem check_decimal_eq_ok_iff {d : DecimalType} {x : Decimal} :
    ((decimal d).check (some (.decimal x))).outcome = .ok () ↔
      x.precision = d.precision.toNat ∧ x.scale = d.scale := by
  simp only [check, checkWith, checkCell, checkValue, Logged.outcome_onError]
  exact DecimalType.check_eq_ok_iff

theorem checkWith_array_eq_ok_iff {classify : Classifier} {item : DataType}
    {items : List (Option Value)} :
    ((array item).checkWith classify (some (.array items))).outcome = .ok () ↔
      ∀ c ∈ items, (item.checkWith classify c).outcome = .ok () := by
  simp only [checkWith, checkCell, checkValue, Logged.outcome_onError]
  exact checkItems_eq_ok_iff

theorem checkWith_map_eq_ok_iff {classify : Classifier} {key value : DataType}
    {entries : List (Option Value × Option Value)} :
    ((map key value).checkWith classify (some (.map entries))).outcome = .ok () ↔
      (∀ e ∈ entries, (key.checkWith classify e.1).outcome = .ok ()) ∧
        ∀ e ∈ entries, (value.checkWith classify e.2).outcome = .ok () := by
  simp only [checkWith, checkCell, checkValue, Logged.outcome_onError]
  exact checkEntries_eq_ok_iff

theorem check_array_eq_ok_iff {item : DataType} {items : List (Option Value)} :
    ((array item).check (some (.array items))).outcome = .ok () ↔
      ∀ c ∈ items, (item.check c).outcome = .ok () :=
  checkWith_array_eq_ok_iff

theorem check_map_eq_ok_iff {key value : DataType}
    {entries : List (Option Value × Option Value)} :
    ((map key value).check (some (.map entries))).outcome = .ok () ↔
      (∀ e ∈ entries, (key.check e.1).outcome = .ok ()) ∧
        ∀ e ∈ entries, (value.check e.2).outcome = .ok () :=
  checkWith_map_eq_ok_iff

theorem check_struct_eq_ok_iff {fields : List Field} {slots : List (Field × Option Value)} :
    ((struct fields).check (some (.record slots))).outcome = .ok () ↔
      slots.map Prod.fst = fields := by
  simp only [check, checkWith, checkCell, checkValue, Logged.outcome_onError]
  exact checkFields_eq_ok_iff

/-- Where the slots of records conform to their fields, a check passes exactly for what conforms. -/
theorem check_eq_ok_iff (t : DataType) {c : Option Value} (h : RecordsFit c) :
    (t.check c).outcome = .ok () ↔ Fits t c := by
  cases c with
  | none => exact ⟨fun _ => .null t, fun _ => rfl⟩
  | some v =>
    cases t with
    | boolean =>
      cases v with
      | boolean b => exact ⟨fun _ => .boolean b, fun _ => rfl⟩
      | _ => constructor <;> intro h' <;> cases h'
    | integer =>
      cases v with
      | integer n => exact ⟨fun _ => .integer n, fun _ => rfl⟩
      | _ => constructor <;> intro h' <;> cases h'
    | bigint =>
      cases v with
      | bigint n => exact ⟨fun _ => .bigint n, fun _ => rfl⟩
      | _ => constructor <;> intro h' <;> cases h'
    | double =>
      cases v with
      | double x => exact ⟨fun _ => .double x, fun _ => rfl⟩
      | _ => constructor <;> intro h' <;> cases h'
    | string =>
      cases v with
      | string s => exact ⟨fun _ => .string s, fun _ => rfl⟩
      | _ => constructor <;> intro h' <;> cases h'
    | decimal d =>
      cases v with
      | decimal x =>
        rw [check_decimal_eq_ok_iff]
        exact ⟨fun hx => .decimal hx.1 hx.2, fun (.decimal hp hs) => ⟨hp, hs⟩⟩
      | _ => constructor <;> intro h' <;> cases h'
    | array item =>
      cases v with
      | array items =>
        cases h with
        | array hitems =>
          rw [check_array_eq_ok_iff]
          constructor
          · intro hc
            exact .array fun c hm => (item.check_eq_ok_iff (hitems c hm)).1 (hc c hm)
          · intro hf c hm
            cases hf with
            | array hf => exact (item.check_eq_ok_iff (hitems c hm)).2 (hf c hm)
      | _ => constructor <;> intro h' <;> cases h'
    | map key value =>
      cases v with
      | map entries =>
        cases h with
        | map hkeys hvalues =>
          rw [check_map_eq_ok_iff]
          constructor
          · rintro ⟨hk, hv⟩
            exact .map (fun e hm => (key.check_eq_ok_iff (hkeys e hm)).1 (hk e hm))
              fun e hm => (value.check_eq_ok_iff (hvalues e hm)).1 (hv e hm)
          · intro hf
            cases hf with
            | map hk hv =>
              exact ⟨fun e hm => (key.check_eq_ok_iff (hkeys e hm)).2 (hk e hm),
                fun e hm => (value.check_eq_ok_iff (hvalues e hm)).2 (hv e hm)⟩
      | _ => constructor <;> intro h' <;> cases h'
    | struct fields =>
      cases v with
      | record slots =>
        cases h with
        | record hslots =>
          -- The check does not look into the slots. That they conform comes from `hslots`.
          rw [check_struct_eq_ok_iff]
          constructor
          · rintro rfl
            exact .record hslots
          · intro hf
            cases hf with
            | record => rfl
      | _ => constructor <;> intro h' <;> cases h'

end DataType

/-! ## Setting fields -/

namespace Record

theorem setWith_eq_ok_iff {classify : Classifier} {r r' : Record} {name : String}
    {c : Option Value} :
    (r.setWith classify name c).outcome = .ok r' ↔ ∃ f, findField? r.fields name = some f ∧
      (f.type.checkWith classify c).outcome = .ok () ∧ r.assign name c = r' := by
  unfold setWith
  cases findField? r.fields name with
  | none => simp
  | some f =>
    simp only [Logged.outcome_bind, Logged.outcome_mapError, bind_eq_ok_iff, mapError_eq_ok_iff,
      Option.some.injEq, exists_eq_left']
    constructor
    · rintro ⟨_, hc, hr⟩
      exact ⟨hc, Except.ok.inj hr⟩
    · rintro ⟨hc, rfl⟩
      exact ⟨(), hc, rfl⟩

theorem set_eq_ok_iff {r r' : Record} {name : String} {c : Option Value} :
    (r.set name c).outcome = .ok r' ↔ ∃ f, findField? r.fields name = some f ∧
      (f.type.check c).outcome = .ok () ∧ r.assign name c = r' :=
  setWith_eq_ok_iff

/-- The names of the fields are distinct, and what each slot holds conforms to its field. -/
structure Sound (r : Record) : Prop where
  distinct : (r.fields.map Field.name).Nodup
  fits : ∀ s ∈ r.slots, Fits s.1.type s.2

theorem sound_blank (l : FieldList) : (blank l.fields).Sound where
  distinct := by
    rw [fields_blank]
    exact l.distinct
  fits := by
    intro s hs
    obtain ⟨f, -, rfl⟩ := List.mem_map.1 hs
    exact .null f.type

theorem Sound.assign {r : Record} {name : String} {f : Field} {c : Option Value} (hr : r.Sound)
    (hf : findField? r.fields name = some f) (hc : Fits f.type c) : (r.assign name c).Sound where
  distinct := by
    rw [fields_assign]
    exact hr.distinct
  fits := by
    intro s hs
    obtain ⟨⟨g, old⟩, hg, rfl⟩ := List.mem_map.1 hs
    show Fits g.type (if g.name = name then c else old)
    by_cases hname : g.name = name
    · have hfound := List.find?_some hf
      have hfname : f.name = name := of_decide_eq_true hfound
      -- No other slot has the name, so what was checked is what the slot asks for.
      have hfr := List.mem_of_find?_eq_some hf
      have hgr : g ∈ r.fields := List.mem_map.2 ⟨_, hg, rfl⟩
      have hgf : g = f :=
        List.inj_on_of_nodup_map hr.distinct hgr hfr (by rw [hname, hfname])
      rw [if_pos hname, hgf]
      exact hc
    · rw [if_neg hname]
      exact hr.fits _ hg

end Record

mutual

/-- What was built has records whose slots conform to their fields. -/
theorem Built.recordsFit {c : Option Value} : Built c → RecordsFit c
  | .null => .null
  | .boolean b => .boolean b
  | .integer n => .integer n
  | .bigint n => .bigint n
  | .double x => .double x
  | .decimal d => .decimal d
  | .string s => .string s
  | .array hitems => .array fun c hc => (hitems c hc).recordsFit
  | .map hkeys hvalues =>
    .map (fun e he => (hkeys e he).recordsFit) fun e he => (hvalues e he).recordsFit
  | .record hr => .record hr.sound.fits

/-- Each step of building a record keeps it sound, since what is set passed the check. -/
theorem BuiltRecord.sound {r : Record} : BuiltRecord r → r.Sound
  | .blank l => Record.sound_blank l
  | .set hr hc hset => by
    obtain ⟨f, hf, hcheck, rfl⟩ := Record.set_eq_ok_iff.1 hset
    exact hr.sound.assign hf ((f.type.check_eq_ok_iff hc.recordsFit).1 hcheck)

end

/-- If each record in a value was built, the value passes the check of a type exactly if it conforms
to the type in all its parts. -/
theorem check_eq_ok_iff_fits (t : DataType) {c : Option Value} (h : Built c) :
    (t.check c).outcome = .ok () ↔ Fits t c :=
  t.check_eq_ok_iff h.recordsFit

/-- An array of a record whose decimal was set and of NULL conforms, and is no array of numbers. -/
theorem check_array_of_records :
    let d : DecimalType := ⟨3, 1, by decide, by decide⟩
    let x : Decimal := { unscaled := -123, scale := 1 }
    let c : Option Value :=
      some (.array [some (.record [(⟨"n", .decimal d⟩, some (.decimal x))]), none])
    Built c ∧ Fits (.array (.struct [⟨"n", .decimal d⟩])) c ∧
      ((DataType.array .double).check c).outcome ≠ .ok () := by
  intro d x c
  have hx : x.precision = d.precision.toNat ∧ x.scale = d.scale := by decide
  have hset : ((Record.blank [⟨"n", .decimal d⟩]).set "n" (some (.decimal x))).outcome =
      .ok ⟨[(⟨"n", .decimal d⟩, some (.decimal x))]⟩ :=
    Record.set_eq_ok_iff.2 ⟨_, rfl, DataType.check_decimal_eq_ok_iff.2 hx, rfl⟩
  have hr := BuiltRecord.set (.blank ⟨[⟨"n", .decimal d⟩], by decide⟩) (.decimal x) hset
  have hc : Built c := by
    refine .array fun e he => ?_
    rcases List.mem_cons.1 he with rfl | he
    · exact .record hr
    · obtain rfl := List.mem_singleton.1 he
      exact .null
  refine ⟨hc, (check_eq_ok_iff_fits _ hc).1 rfl, ?_⟩
  intro h
  have hf := (check_eq_ok_iff_fits _ hc).1 h
  unfold c at hf
  cases hf with
  | array hf =>
    have hdouble := hf _ List.mem_cons_self
    cases hdouble

end SqlSchema
