import SqlSchema.Value.Stored
import SqlSchema.Proofs.Lookups

/-!
# Laws of records

What a record holds after its fields were set again and again. A set changes one field and leaves
all others as they are (`StoredRecord.get_of_setWith`), so a field holds what it was last set to.
Sets of different fields may change places, and a later set of a field makes an earlier one void.

A stored record finds its slots by an index. Setting and getting go just as in the record that is
meant (`StoredRecord.record_setWith`, `StoredRecord.get_record`).
-/

namespace SqlSchema

/-- A call that sets a field, by the kinds of values or by a classifier. -/
inductive SetCall where
  | set (name : String) (content : Option Value)
  | setWith (classify : Classifier) (name : String) (content : Option Value)

namespace SetCall

def name : SetCall → String
  | set name _ => name
  | setWith _ name _ => name

/-- What a call sets the field to. -/
def content : SetCall → Option Value
  | set _ content => content
  | setWith _ _ content => content

/-- What tells a call the kinds of values. -/
def classify : SetCall → Classifier
  | set _ _ => Value.kind
  | setWith classify _ _ => classify

end SetCall

/-- Makes calls up to the first that fails. -/
def Record.run (r : Record) (calls : List SetCall) : Logged DataError Record :=
  calls.foldlM (fun r a => r.setWith a.classify a.name a.content) r

namespace StoredRecord

variable {r r' : StoredRecord} {s : IndexedFields} {name : String} {c d : Option Value}
  {classify : Classifier} {a b : SetCall} {calls : List SetCall}

def call (r : StoredRecord) : SetCall → Logged DataError StoredRecord
  | .set name content => r.set name content
  | .setWith classify name content => r.setWith classify name content

/-- Makes calls up to the first that fails. -/
def run (r : StoredRecord) (calls : List SetCall) : Logged DataError StoredRecord :=
  calls.foldlM call r

theorem call_eq (r : StoredRecord) (a : SetCall) :
    r.call a = r.setWith a.classify a.name a.content := by
  cases a <;> rfl

/-! ## Slots -/

theorem eq_of_contents_eq (hs : r.schema = r'.schema) (hc : r.contents = r'.contents) : r = r' := by
  cases r
  cases r'
  cases hs
  cases hc
  rfl

theorem put_put (r : StoredRecord) (i : Fin r.schema.fields.length) (c d : Option Value) :
    (r.put i c).put i d = r.put i d :=
  eq_of_contents_eq rfl (List.set_set c)

theorem put_comm (r : StoredRecord) {i j : Fin r.schema.fields.length} (h : i ≠ j)
    (c d : Option Value) : (r.put i c).put j d = (r.put j d).put i c :=
  eq_of_contents_eq rfl (List.set_comm c d (Fin.val_ne_of_ne h))

theorem content_put (r : StoredRecord) (i j : Fin r.schema.fields.length) (c : Option Value) :
    (r.put i c).content j = if i = j then c else r.content j := by
  unfold content put
  rw [List.get_eq_getElem, List.get_eq_getElem, List.getElem_set]
  simp only [Fin.val_cast, Fin.ext_iff]

theorem get_of_place {i : Fin r.schema.fields.length} (h : r.schema.place? name = some i) :
    r.get name = .ok (r.content i) := by
  unfold get
  split
  · next hn =>
    rw [h] at hn
    cases hn
  · next j hj =>
    rw [h] at hj
    rw [Option.some.inj hj]

theorem get_of_no_place (h : r.schema.place? name = none) :
    r.get name = .error (.unknownField name) := by
  unfold get
  rw [h]

theorem get_put {i : Fin r.schema.fields.length} (h : r.schema.place? name = some i)
    (c : Option Value) (other : String) :
    (r.put i c).get other = if other = name then .ok c else r.get other := by
  have hi := IndexedFields.place?_eq_some_iff.1 h
  cases hother : r.schema.place? other with
  | none =>
    have hne : other ≠ name := by
      rintro rfl
      rw [h] at hother
      cases hother
    rw [if_neg hne, get_of_no_place hother, get_of_no_place (r := r.put i c) hother]
  | some j =>
    have hiff : i = j ↔ other = name := by
      constructor
      · rintro rfl
        rw [← IndexedFields.place?_eq_some_iff.1 hother, hi]
      · rintro rfl
        exact Option.some.inj (h.symm.trans hother)
    rw [get_of_place hother, get_of_place (r := r.put i c) hother, content_put]
    simp only [hiff]
    split <;> rfl

theorem get_blank_of_field {f : Field} (hf : f ∈ s.fields) :
    (blank s).get f.name = .ok none := by
  obtain ⟨i, rfl⟩ := List.get_of_mem hf
  have hplace : (blank s).schema.place? (s.fields.get i).name = some i :=
    IndexedFields.place?_eq_some_iff.2 rfl
  rw [get_of_place hplace]
  simp [content, blank]

/-! ## One set -/

theorem setWith_of_place {i : Fin r.schema.fields.length} (h : r.schema.place? name = some i) :
    r.setWith classify name c =
      (((r.schema.fields.get i).type.checkWith classify c).mapError (.nested (.field name)) >>=
        fun _ => pure (r.put i c)) := by
  unfold setWith
  split
  · next hn =>
    rw [h] at hn
    cases hn
  · next j hj =>
    rw [h] at hj
    rw [Option.some.inj hj]

theorem setWith_of_no_place (h : r.schema.place? name = none) :
    r.setWith classify name c = Logged.fail (.unknownField name) := by
  unfold setWith
  rw [h]

theorem setWith_eq_ok_iff : (r.setWith classify name c).outcome = .ok r' ↔
    ∃ i, r.schema.place? name = some i ∧
      ((r.schema.fields.get i).type.checkWith classify c).outcome = .ok () ∧ r.put i c = r' := by
  cases h : r.schema.place? name with
  | none => simp [setWith_of_no_place h]
  | some i =>
    rw [setWith_of_place h, Logged.outcome_bind, bind_eq_ok_iff]
    constructor
    · rintro ⟨_, hcheck, hput⟩
      exact ⟨i, rfl, mapError_eq_ok_iff.1 hcheck, Except.ok.inj hput⟩
    · rintro ⟨j, hj, hcheck, rfl⟩
      obtain rfl := Option.some.inj hj
      exact ⟨(), mapError_eq_ok_iff.2 hcheck, rfl⟩

/-- A set fails if there is no such field, whatever it sets, and else if the type of the field
refuses it. -/
theorem setWith_eq_error_iff {e : DataError} :
    (r.setWith classify name c).outcome = .error e ↔
      (∀ f ∈ r.schema.fields, f.name ≠ name) ∧ e = .unknownField name ∨
      ∃ f ∈ r.schema.fields, f.name = name ∧ ∃ cause,
        (f.type.checkWith classify c).outcome = .error cause ∧
        e = .nested (.field name) cause := by
  cases h : r.schema.place? name with
  | none =>
    have hnone := IndexedFields.place?_eq_none_iff_forall.1 h
    rw [setWith_of_no_place h, Logged.outcome_fail, Except.error.injEq, eq_comm]
    constructor
    · intro he
      exact Or.inl ⟨hnone, he⟩
    · rintro (⟨-, he⟩ | ⟨f, hf, hname, -⟩)
      · exact he
      · exact absurd hname (hnone f hf)
  | some i =>
    have hi := IndexedFields.place?_eq_some_iff.1 h
    rw [setWith_of_place h, Logged.outcome_bind, bind_eq_error_iff]
    constructor
    · rintro (he | ⟨_, -, he⟩)
      · obtain ⟨cause, hcause, rfl⟩ := mapError_eq_error_iff.1 he
        exact Or.inr ⟨_, List.get_mem _ i, hi, cause, hcause, rfl⟩
      · cases he
    · rintro (⟨hnone, -⟩ | ⟨f, hf, hname, cause, hcause, rfl⟩)
      · exact absurd hi (hnone _ (List.get_mem _ i))
      · obtain ⟨j, rfl⟩ := List.get_of_mem hf
        obtain rfl := Option.some.inj (h.symm.trans (IndexedFields.place?_eq_some_iff.2 hname))
        exact Or.inl (mapError_eq_error_iff.2 ⟨cause, hcause, rfl⟩)

theorem schema_of_setWith (h : (r.setWith classify name c).outcome = .ok r') :
    r'.schema = r.schema := by
  obtain ⟨i, -, -, rfl⟩ := setWith_eq_ok_iff.1 h
  rfl

/-- A set changes what its field holds and nothing else. -/
theorem get_of_setWith (h : (r.setWith classify name c).outcome = .ok r') (other : String) :
    r'.get other = if other = name then .ok c else r.get other := by
  obtain ⟨i, hi, -, rfl⟩ := setWith_eq_ok_iff.1 h
  exact get_put hi c other

theorem call_comm {r₁ : StoredRecord} (hne : a.name ≠ b.name) (ha : (r.call a).outcome = .ok r₁)
    (hb : (r₁.call b).outcome = .ok r') :
    ∃ r₂, (r.call b).outcome = .ok r₂ ∧ (r₂.call a).outcome = .ok r' := by
  rw [call_eq, setWith_eq_ok_iff] at ha hb
  obtain ⟨i, hi, hcheck, rfl⟩ := ha
  obtain ⟨j, hj, hcheck', rfl⟩ := hb
  have hij : i ≠ j := by
    rintro rfl
    exact hne ((IndexedFields.place?_eq_some_iff.1 hi).symm.trans
      (IndexedFields.place?_eq_some_iff.1 hj))
  refine ⟨r.put j b.content, ?_, ?_⟩
  · rw [call_eq, setWith_eq_ok_iff]
    exact ⟨j, hj, hcheck', rfl⟩
  · rw [call_eq, setWith_eq_ok_iff]
    exact ⟨i, hi, hcheck, r.put_comm hij.symm _ _⟩

/-- A set of a field is the same with and without an earlier set of this field. -/
theorem call_call (heq : a.name = b.name) (ha : (r.call a).outcome = .ok r') :
    r'.call b = r.call b := by
  rw [call_eq, setWith_eq_ok_iff] at ha
  obtain ⟨i, hi, -, rfl⟩ := ha
  rw [heq] at hi
  have hi' : (r.put i a.content).schema.place? b.name = some i := hi
  rw [call_eq, call_eq, setWith_of_place hi, setWith_of_place hi', put_put]
  rfl

/-! ## Many sets -/

theorem run_cons_eq_ok_iff : (r.run (a :: calls)).outcome = .ok r' ↔
    ∃ r₁, (r.call a).outcome = .ok r₁ ∧ (r₁.run calls).outcome = .ok r' := by
  rw [run, List.foldlM_cons, Logged.outcome_bind, bind_eq_ok_iff]
  rfl

theorem run_append (r : StoredRecord) (before after : List SetCall) :
    r.run (before ++ after) = r.run before >>= fun r₁ => r₁.run after :=
  List.foldlM_append

theorem schema_of_run (h : (r.run calls).outcome = .ok r') : r'.schema = r.schema := by
  induction calls generalizing r with
  | nil => rw [← Except.ok.inj h]
  | cons a calls ih =>
    obtain ⟨r₁, ha, hrun⟩ := run_cons_eq_ok_iff.1 h
    rw [call_eq] at ha
    rw [ih hrun, schema_of_setWith ha]

theorem get_of_run_of_not_set (h : (r.run calls).outcome = .ok r')
    (hname : ∀ a ∈ calls, a.name ≠ name) : r'.get name = r.get name := by
  induction calls generalizing r with
  | nil => rw [← Except.ok.inj h]
  | cons a calls ih =>
    obtain ⟨r₁, ha, hrun⟩ := run_cons_eq_ok_iff.1 h
    rw [call_eq] at ha
    rw [ih hrun fun b hb => hname b (List.mem_cons_of_mem a hb), get_of_setWith ha,
      if_neg (hname a List.mem_cons_self).symm]

theorem get_of_run_of_last {before after : List SetCall}
    (h : (r.run (before ++ a :: after)).outcome = .ok r')
    (hlast : ∀ b ∈ after, b.name ≠ a.name) : r'.get a.name = .ok a.content := by
  rw [run_append, Logged.outcome_bind, bind_eq_ok_iff] at h
  obtain ⟨r₁, -, h⟩ := h
  obtain ⟨r₂, ha, hafter⟩ := run_cons_eq_ok_iff.1 h
  rw [call_eq] at ha
  rw [get_of_run_of_not_set hafter hlast, get_of_setWith ha, if_pos rfl]

/-! ## The record that is meant -/

theorem record_blank (s : IndexedFields) : (blank s).record = .blank s.fields := by
  refine congrArg Record.mk (List.ext_getElem ?_ fun k _ _ => ?_)
  · simp [blank]
  · simp [blank]

theorem record_put {i : Fin r.schema.fields.length} (h : r.schema.place? name = some i)
    (c : Option Value) : (r.put i c).record = r.record.assign name c := by
  refine congrArg Record.mk (List.ext_getElem ?_ fun k hk _ => ?_)
  · simp [put, record]
  · have hlt : k < r.schema.fields.length := by
      rw [List.length_zip] at hk
      exact (Nat.lt_min.1 hk).1
    have hiff := IndexedFields.val_eq_iff h hlt
    rw [List.get_eq_getElem] at hiff
    simp [put, record, List.getElem_set, hiff]

theorem get_record (r : StoredRecord) (name : String) : r.record.get name = r.get name := by
  have hlength : r.record.slots.length = r.schema.fields.length := by
    simp [record, r.length_contents]
  unfold Record.get
  cases h : r.schema.place? name with
  | none =>
    have hnone : r.record.slots.find? (fun slot => slot.1.name = name) = none := by
      rw [List.find?_eq_none]
      intro slot hslot
      have hfield := (List.of_mem_zip hslot).1
      simpa using IndexedFields.place?_eq_none_iff_forall.1 h slot.1 hfield
    rw [hnone, get_of_no_place h]
  | some i =>
    have hfind : r.record.slots.find? (fun slot => slot.1.name = name) =
        some (r.schema.fields.get i, r.content i) := by
      rw [List.find?_eq_some_iff_getElem]
      refine ⟨by simpa using IndexedFields.place?_eq_some_iff.1 h, i, by simp [hlength], ?_, ?_⟩
      · simp [record, content]
      · intro j hj
        have hiff := IndexedFields.val_eq_iff h (Nat.lt_trans hj i.isLt)
        have hne : ¬ i.val = j := by omega
        rw [hiff] at hne
        simpa [record] using hne
    rw [hfind, get_of_place h]

theorem record_setWith (classify : Classifier) (r : StoredRecord) (name : String)
    (c : Option Value) :
    record <$> r.setWith classify name c = r.record.setWith classify name c := by
  have hfind := r.schema.map_get_place? name
  unfold Record.setWith
  rw [fields_record, ← hfind]
  cases h : r.schema.place? name with
  | none =>
    rw [setWith_of_no_place h]
    rfl
  | some i =>
    rw [setWith_of_place h, map_bind]
    simp only [map_pure, record_put h, Option.map_some]

theorem record_run (r : StoredRecord) (calls : List SetCall) :
    record <$> r.run calls = r.record.run calls := by
  refine map_foldlM (fun r a => ?_) calls r
  rw [call_eq, record_setWith]

/-! ## What a record holds -/

/-- What a record holds after calls that set its fields, from the first when all were NULL. -/
structure Reflects (r : StoredRecord) (s : IndexedFields) (calls : List SetCall) : Prop where
  schema_eq : r.schema = s
  length_eq : r.contents.length = s.length
  fields_eq : r.record.fields = s.fields
  get_last : ∀ before a after, calls = before ++ a :: after → (∀ b ∈ after, b.name ≠ a.name) →
    r.get a.name = .ok a.content
  get_never_set : ∀ f ∈ s.fields, (∀ a ∈ calls, a.name ≠ f.name) → r.get f.name = .ok none
  get_unknown : ∀ name, (∀ f ∈ s.fields, f.name ≠ name) →
    r.get name = .error (.unknownField name)

theorem reflects_of_run (h : ((blank s).run calls).outcome = .ok r) : r.Reflects s calls := by
  have hschema : r.schema = s := schema_of_run h
  constructor
  · exact hschema
  · rw [r.length_contents, hschema]
    rfl
  · rw [fields_record, hschema]
  · rintro before a after rfl hlast
    exact get_of_run_of_last h hlast
  · intro f hf hnever
    rw [get_of_run_of_not_set h hnever, get_blank_of_field hf]
  · intro name hname
    rw [← hschema] at hname
    exact get_of_no_place (IndexedFields.place?_eq_none_iff_forall.2 hname)

theorem run_pair_comm (hne : a.name ≠ b.name) (h : (r.run [a, b]).outcome = .ok r') :
    (r.run [b, a]).outcome = .ok r' := by
  obtain ⟨r₁, ha, hb⟩ := run_cons_eq_ok_iff.1 h
  obtain ⟨r₂, hb, hnil⟩ := run_cons_eq_ok_iff.1 hb
  rw [Except.ok.inj hnil] at hb
  obtain ⟨r₃, hb', ha'⟩ := call_comm hne ha hb
  exact run_cons_eq_ok_iff.2 ⟨r₃, hb', run_cons_eq_ok_iff.2 ⟨r', ha', rfl⟩⟩

end StoredRecord

/-- After any calls that succeed, a record has one slot for each field, and each name gives what
it was last set to, NULL if it was never set, and an error if it names no field. Sets of different
fields commute, and a later set of a field replaces the earlier one. A set fails just if it names no
field, whatever it sets, or if the type of the field refuses the value. In all this a stored record
is the record that is meant. -/
theorem record_laws :
    (∀ (s : IndexedFields) (calls : List SetCall) (r : StoredRecord),
      ((StoredRecord.blank s).run calls).outcome = .ok r → r.Reflects s calls) ∧
    (∀ (s : IndexedFields) (calls : List SetCall),
      StoredRecord.record <$> (StoredRecord.blank s).run calls =
        (Record.blank s.fields).run calls) ∧
    (∀ (r : StoredRecord) (name : String), r.record.get name = r.get name) ∧
    (∀ (r r' : StoredRecord) (a b : SetCall), a.name ≠ b.name →
      ((r.run [a, b]).outcome = .ok r' ↔ (r.run [b, a]).outcome = .ok r')) ∧
    (∀ (r r' : StoredRecord) (a b : SetCall), a.name = b.name → (r.call a).outcome = .ok r' →
      r'.call b = r.call b) ∧
    (∀ (r : StoredRecord) (a : SetCall) (e : DataError), (r.call a).outcome = .error e ↔
      (∀ f ∈ r.schema.fields, f.name ≠ a.name) ∧ e = .unknownField a.name ∨
      ∃ f ∈ r.schema.fields, f.name = a.name ∧ ∃ cause,
        (f.type.checkWith a.classify a.content).outcome = .error cause ∧
        e = .nested (.field a.name) cause) ∧
    ∀ name : String, (Place.field name).text = "STRUCT field '" ++ name ++ "'" := by
  refine ⟨fun s calls r => StoredRecord.reflects_of_run, fun s calls => ?_,
    fun r => r.get_record, ?_, ?_, ?_, fun name => rfl⟩
  · rw [StoredRecord.record_run, StoredRecord.record_blank]
  · intro r r' a b hne
    exact ⟨StoredRecord.run_pair_comm hne, StoredRecord.run_pair_comm hne.symm⟩
  · intro r r' a b
    exact StoredRecord.call_call
  · intro r a e
    rw [StoredRecord.call_eq]
    exact StoredRecord.setWith_eq_error_iff

/-- A field that is set twice, one that a classifier opens for a text, and one that stays NULL. A
name without a field is refused before the value is looked at. -/
theorem record_laws_three_fields :
    ∃ s, (IndexedFields.empty.addAll [⟨"a", .integer⟩, ⟨"b", .bigint⟩, ⟨"c", .string⟩]).outcome =
        .ok s ∧
      (∃ r, ((StoredRecord.blank s).run [.set "a" (some (.integer 1)),
          .setWith (fun _ => .bigint) "b" (some (.string "x")), .set "a" none]).outcome = .ok r ∧
        (r.get "a" = .ok none ∧ r.get "b" = .ok (some (.string "x")) ∧ r.get "c" = .ok none ∧
          r.get "A" = .error (.unknownField "A")) ∧
        (r.call (.set "B" (some (.integer 1)))).outcome = .error (.unknownField "B") ∧
        (r.call (.set "b" (some (.integer 1)))).outcome =
          .error (.nested (.field "b") (.mismatch (.kind .bigint) (.kind .integer)))) ∧
      (∃ r, ((StoredRecord.blank s).run [.set "a" (some (.integer 2)), .set "c" none]).outcome =
          .ok r ∧
        ((StoredRecord.blank s).run [.set "c" none, .set "a" (some (.integer 2))]).outcome =
          .ok r) ∧
      ∃ r, ((StoredRecord.blank s).call (.set "a" (some (.integer 2)))).outcome = .ok r ∧
        r.call (.set "a" none) = (StoredRecord.blank s).call (.set "a" none) := by
  obtain ⟨hholds, -, -, hcomm, hreplace, herror, -⟩ := record_laws
  obtain ⟨s, hs, hfields, ⟨r, hr⟩, ⟨p, hp⟩, q, hq⟩ : ∃ s,
      (IndexedFields.empty.addAll [⟨"a", .integer⟩, ⟨"b", .bigint⟩, ⟨"c", .string⟩]).outcome =
        .ok s ∧ s.fields = [⟨"a", .integer⟩, ⟨"b", .bigint⟩, ⟨"c", .string⟩] ∧
      (∃ r, ((StoredRecord.blank s).run [.set "a" (some (.integer 1)),
        .setWith (fun _ => .bigint) "b" (some (.string "x")), .set "a" none]).outcome = .ok r) ∧
      (∃ p, ((StoredRecord.blank s).run [.set "a" (some (.integer 2)), .set "c" none]).outcome =
        .ok p) ∧
      ∃ q, ((StoredRecord.blank s).call (.set "a" (some (.integer 2)))).outcome = .ok q :=
    ⟨_, rfl, rfl, ⟨_, rfl⟩, ⟨_, rfl⟩, _, rfl⟩
  have h := hholds s _ r hr
  have hschema : r.schema.fields = _ := h.schema_eq ▸ hfields
  refine ⟨s, hs, ⟨r, hr, ⟨?_, ?_, ?_, ?_⟩, ?_, ?_⟩, ⟨p, hp, ?_⟩, q, hq, ?_⟩
  · exact h.get_last [.set "a" _, .setWith _ "b" _] (.set "a" none) [] rfl nofun
  · exact h.get_last [.set "a" _] (.setWith _ "b" _) [.set "a" none] rfl (by simp [SetCall.name])
  · exact h.get_never_set ⟨"c", .string⟩ (by simp [hfields]) (by simp [SetCall.name])
  · exact h.get_unknown "A" (by simp [hfields])
  · exact (herror r _ _).2 (Or.inl ⟨by simp [hschema, SetCall.name], rfl⟩)
  · exact (herror r _ _).2 (Or.inr ⟨⟨"b", .bigint⟩, by simp [hschema], rfl, _, rfl, rfl⟩)
  · exact (hcomm _ p _ _ (by simp [SetCall.name])).1 hp
  · exact hreplace _ q (.set "a" (some (.integer 2))) _ rfl hq

end SqlSchema
