import Mathlib.Data.List.Nodup
import SqlSchema.Type.Index
import SqlSchema.Proofs.Nesting
import SqlSchema.Proofs.Outcomes

/-!
# Looking up fields by name

The fields of a STRUCT are added by calls of three kinds. However they are spread over the calls,
only the fields themselves decide what comes out: they are all taken if no name repeats
(`FieldList.addAll_eq_ok_iff`), and else the first repeat is told (`FirstRepeat`).

An index beside the fields changes neither outcome nor log (`IndexedFields.toFieldList_run`), and
the lookups through it find what a search through the fields finds (`IndexedFields.field?_eq`,
`IndexedFields.index?_eq`). So structs with equal fields answer alike.
-/

namespace SqlSchema

open Log

/-! ## Repeated names -/

/-- The name of the second field repeats that of the first, and no field before the second one
repeats the name of another. -/
structure FirstRepeat (fs : List Field) (i j : Fin fs.length) : Prop where
  lt : i < j
  name_eq : (fs.get i).name = (fs.get j).name
  least : ∀ h k : Fin fs.length, h < k → (fs.get h).name = (fs.get k).name → j ≤ k

/-- A first repeat divides the fields: those before the repeated one have distinct names, and the
other field is among them. -/
theorem exists_firstRepeat_iff {fs : List Field} {x y : Field} :
    (∃ i j, FirstRepeat fs i j ∧ fs.get i = x ∧ fs.get j = y) ↔
      ∃ before after, fs = before ++ y :: after ∧ (before.map Field.name).Nodup ∧ x ∈ before ∧
        x.name = y.name := by
  constructor
  · rintro ⟨i, j, h, rfl, rfl⟩
    refine ⟨fs.take j, fs.drop (j + 1), by simp, ?_, ?_, h.name_eq⟩
    · rw [List.Nodup, List.pairwise_map, List.pairwise_iff_getElem]
      intro a b ha hb hab hname
      rw [List.length_take] at ha hb
      rw [List.getElem_take, List.getElem_take] at hname
      have hle : j.val ≤ b := h.least ⟨a, by omega⟩ ⟨b, by omega⟩ hab hname
      omega
    · rw [List.mem_take_iff_getElem]
      exact ⟨i, by have := h.lt; omega, rfl⟩
  · rintro ⟨before, after, rfl, hdistinct, hx, hname⟩
    obtain ⟨a, ha, rfl⟩ := List.getElem_of_mem hx
    have hlast : before.length < (before ++ y :: after).length := by simp
    refine ⟨⟨a, Nat.lt_trans ha hlast⟩, ⟨before.length, hlast⟩, ⟨ha, ?_, ?_⟩, ?_, ?_⟩
    · simpa [List.getElem_append_left ha] using hname
    · intro h k hhk heq
      refine Nat.le_of_not_lt fun hk => ?_
      have hh : h.val < before.length := Nat.lt_trans hhk hk
      rw [List.Nodup, List.pairwise_map, List.pairwise_iff_getElem] at hdistinct
      rw [List.get_eq_getElem, List.get_eq_getElem, List.getElem_append_left hh,
        List.getElem_append_left hk] at heq
      exact hdistinct h k hh hk hhk heq
    · simp [List.getElem_append_left ha]
    · simp

/-! ## Adding fields -/

namespace FieldList

theorem findField?_eq_some_iff {l : FieldList} {name : String} {f : Field} :
    findField? l.fields name = some f ↔ f ∈ l.fields ∧ f.name = name := by
  constructor
  · intro h
    exact ⟨List.mem_of_find?_eq_some h, by simpa using List.find?_some h⟩
  · rintro ⟨hf, rfl⟩
    cases hfind : findField? l.fields f.name with
    | none => exact absurd (List.mem_map_of_mem hf) (findField?_eq_none_iff.1 hfind)
    | some g =>
      have hname : g.name = f.name := by simpa using List.find?_some hfind
      have hg : g ∈ l.fields := List.mem_of_find?_eq_some hfind
      rw [List.inj_on_of_nodup_map l.distinct hg hf hname]

theorem add_eq_ok_iff {l l' : FieldList} {f : Field} :
    (l.add f).outcome = .ok l' ↔ l'.fields = l.fields ++ [f] := by
  constructor
  · exact fields_of_add
  · intro h
    obtain ⟨m, hm, hfields⟩ := exists_add (h ▸ l'.distinct)
    rw [hm, eq_of_fields_eq (hfields.trans h.symm)]

/-- Fields are added if no name repeats, and then they stand behind those that were there. -/
theorem addAll_eq_ok_iff {l l' : FieldList} {fs : List Field} :
    (l.addAll fs).outcome = .ok l' ↔ l'.fields = l.fields ++ fs := by
  induction fs generalizing l with
  | nil =>
    rw [List.append_nil]
    constructor
    · intro h
      rw [Except.ok.inj h]
    · intro h
      rw [eq_of_fields_eq h]
      rfl
  | cons f fs ih =>
    rw [addAll, List.foldlM_cons, Logged.outcome_bind, bind_eq_ok_iff]
    constructor
    · rintro ⟨m, hm, h⟩
      rw [ih.1 h, add_eq_ok_iff.1 hm, List.append_assoc, List.singleton_append]
    · intro h
      have hd : ((l.fields ++ [f] ++ fs).map Field.name).Nodup := by simpa [h] using l'.distinct
      rw [List.map_append] at hd
      refine ⟨⟨l.fields ++ [f], hd.of_append_left⟩, add_eq_ok_iff.2 rfl, ih.2 ?_⟩
      rw [h, List.append_assoc, List.singleton_append]

theorem exists_empty_addAll_iff {fs : List Field} :
    (∃ l, (empty.addAll fs).outcome = .ok l) ↔ (fs.map Field.name).Nodup := by
  constructor
  · rintro ⟨l, hl⟩
    have hfields : l.fields = fs := addAll_eq_ok_iff.1 hl
    exact hfields ▸ l.distinct
  · intro h
    exact ⟨⟨fs, h⟩, addAll_eq_ok_iff.2 rfl⟩

/-- The first repeat is told by the field that was there and the one that repeats its name. -/
theorem empty_addAll_eq_error_iff {fs : List Field} {e : TypeError} :
    (empty.addAll fs).outcome = .error e ↔
      ∃ i j, FirstRepeat fs i j ∧ e = .duplicateField (fs.get i) (fs.get j) := by
  rw [addAll, foldlM_eq_error_iff]
  constructor
  · rintro ⟨before, f, after, m, hfs, hm, he⟩
    have hbefore : m.fields = before := addAll_eq_ok_iff.1 hm
    obtain ⟨existing, hfind, rfl⟩ := add_eq_error_iff.1 he
    obtain ⟨hmem, hname⟩ := findField?_eq_some_iff.1 hfind
    obtain ⟨i, j, h, rfl, rfl⟩ := exists_firstRepeat_iff.2
      ⟨before, after, hfs, hbefore ▸ m.distinct, hbefore ▸ hmem, hname⟩
    exact ⟨i, j, h, rfl⟩
  · rintro ⟨i, j, h, rfl⟩
    obtain ⟨before, after, hfs, hdistinct, hmem, hname⟩ :=
      exists_firstRepeat_iff.1 ⟨i, j, h, rfl, rfl⟩
    refine ⟨before, fs.get j, after, ⟨before, hdistinct⟩, hfs, addAll_eq_ok_iff.2 rfl, ?_⟩
    exact add_eq_error_iff.2 ⟨_, findField?_eq_some_iff.2 ⟨hmem, hname⟩, rfl⟩

end FieldList

/-- A call that adds fields: one by its name and type, one as it is, or several. -/
inductive AddCall where
  | field (name : String) (type : DataType)
  | add (f : Field)
  | addAll (fs : List Field)

def AddCall.fields : AddCall → List Field
  | field name type => [⟨name, type⟩]
  | add f => [f]
  | addAll fs => fs

def addedFields (calls : List AddCall) : List Field :=
  calls.flatMap AddCall.fields

namespace IndexedFields

variable {s t : IndexedFields} {f : Field} {name : String}

def call (s : IndexedFields) : AddCall → Logged TypeError IndexedFields
  | .field name type => s.field name type
  | .add f => s.add f
  | .addAll fs => s.addAll fs

/-- Makes calls up to the first that fails. -/
def run (s : IndexedFields) (calls : List AddCall) : Logged TypeError IndexedFields :=
  calls.foldlM call s

/-- The lookup of a place by the index finds what a search finds. -/
theorem map_get_place? (s : IndexedFields) (name : String) :
    (s.place? name).map s.fields.get = findField? s.fields name := by
  cases h : s.place? name with
  | none => rw [place?_eq_none_iff.1 h, Option.map_none]
  | some i =>
    symm
    exact FieldList.findField?_eq_some_iff.2 ⟨List.get_mem _ i, place?_eq_some_iff.1 h⟩

theorem field?_eq (s : IndexedFields) (name : String) :
    s.field? name = findField? s.fields name :=
  s.map_get_place? name

theorem toFieldList_add (s : IndexedFields) (f : Field) :
    toFieldList <$> s.add f = s.toFieldList.add f := by
  -- Index and search find the same field or none, so two of the four cases cannot be.
  have hplace := s.map_get_place? f.name
  unfold add FieldList.add
  split
  · next i hi =>
    rw [hi, Option.map_some] at hplace
    split
    · next existing he =>
      rw [he] at hplace
      rw [← Option.some.inj hplace]
      rfl
    · next hn =>
      rw [hn] at hplace
      cases hplace
  · next hi =>
    rw [hi, Option.map_none] at hplace
    split
    · next existing he =>
      rw [he] at hplace
      cases hplace
    · rfl

theorem toFieldList_addAll (s : IndexedFields) (fs : List Field) :
    toFieldList <$> s.addAll fs = s.toFieldList.addAll fs :=
  map_foldlM toFieldList_add fs s

theorem type_build {ε : Type} (s : IndexedFields) :
    type <$> (s.build : Logged ε IndexedFields) = s.toFieldList.build := rfl

theorem call_eq (s : IndexedFields) (c : AddCall) : s.call c = s.addAll c.fields := by
  cases c with
  | field name type => simp [call, field, addAll, AddCall.fields]
  | add f => simp [call, addAll, AddCall.fields]
  | addAll fs => rfl

theorem run_eq (s : IndexedFields) (calls : List AddCall) :
    s.run calls = s.addAll (addedFields calls) := by
  induction calls generalizing s with
  | nil => rfl
  | cons c cs ih =>
    unfold run addAll addedFields at ih ⊢
    rw [List.foldlM_cons, List.flatMap_cons, List.foldlM_append, call_eq]
    simp only [ih]
    rfl

theorem toFieldList_run (s : IndexedFields) (calls : List AddCall) :
    toFieldList <$> s.run calls = s.toFieldList.addAll (addedFields calls) := by
  rw [run_eq, toFieldList_addAll]

theorem map_outcome_run (s : IndexedFields) (calls : List AddCall) :
    (s.run calls).outcome.map toFieldList =
      (s.toFieldList.addAll (addedFields calls)).outcome := by
  rw [← toFieldList_run, map_eq_pure_bind, Logged.outcome_bind]
  cases (s.run calls).outcome <;> rfl

/-! ## Lookups -/

theorem val_eq_iff {i : Fin s.fields.length} (h : s.place? name = some i) {k : Nat}
    (hk : k < s.fields.length) : i.val = k ↔ (s.fields.get ⟨k, hk⟩).name = name := by
  rw [← place?_eq_some_iff, h, Option.some.injEq, Fin.ext_iff]

theorem index?_eq (s : IndexedFields) (name : String) :
    s.index? name = fieldIndex? s.fields name := by
  unfold index? fieldIndex?
  cases h : s.place? name with
  | none =>
    have hnone := place?_eq_none_iff.1 h
    rw [findField?, List.find?_eq_none] at hnone
    exact (List.findIdx?_eq_none_iff.2 fun f hf => by simpa using hnone f hf).symm
  | some i =>
    have hi := place?_eq_some_iff.1 h
    refine (List.findIdx?_eq_some_iff_getElem.2 ⟨i.isLt, by simpa using hi, ?_⟩).symm
    intro j hji hj
    have heq : i.val = j := (val_eq_iff h (Nat.lt_trans hji i.isLt)).2 (by simpa using hj)
    exact Nat.ne_of_lt hji heq.symm

/-- The fields are these, and each of them is found by its name. -/
structure Holds (s : IndexedFields) (fs : List Field) : Prop where
  fields_eq : s.fields = fs
  length_eq : s.length = fs.length
  index?_eq_some_iff : ∀ name (i : Fin fs.length),
    s.index? name = some i.val ↔ (fs.get i).name = name
  field?_eq_some_iff : ∀ name (i : Fin fs.length),
    s.field? name = some (fs.get i) ↔ (fs.get i).name = name
  index?_eq_none_iff : ∀ name, s.index? name = none ↔ ∀ f ∈ fs, f.name ≠ name
  field?_eq_none_iff : ∀ name, s.field? name = none ↔ ∀ f ∈ fs, f.name ≠ name

theorem place?_eq_none_iff_forall : s.place? name = none ↔ ∀ f ∈ s.fields, f.name ≠ name := by
  rw [place?_eq_none_iff]
  simp [findField?]

theorem holds_fields (s : IndexedFields) : s.Holds s.fields where
  fields_eq := rfl
  length_eq := rfl
  index?_eq_some_iff name i := by
    rw [index?, Option.map_eq_some_iff, ← place?_eq_some_iff]
    constructor
    · rintro ⟨j, hj, hji⟩
      rw [hj, Fin.ext hji]
    · intro h
      exact ⟨i, h, rfl⟩
  field?_eq_some_iff name i := by
    rw [field?_eq, s.toFieldList.findField?_eq_some_iff, and_iff_right (List.get_mem _ i)]
  index?_eq_none_iff name := by
    rw [index?, Option.map_eq_none_iff, place?_eq_none_iff_forall]
  field?_eq_none_iff name := by
    rw [field?, Option.map_eq_none_iff, place?_eq_none_iff_forall]

/-- Lookups do not tell apart what is equal, though equality does not look at the index. -/
theorem lookups_eq_of_same (h : s.same t = true) (name : String) :
    s.index? name = t.index? name ∧ s.field? name = t.field? name := by
  have hfields : s.fields = t.fields := of_decide_eq_true h
  rw [index?_eq, index?_eq, field?_eq, field?_eq, hfields]
  exact ⟨rfl, rfl⟩

end IndexedFields

/-- All calls before one of them succeed, and this one fails with the error. -/
def FirstFailure (calls : List AddCall) (e : TypeError) : Prop :=
  ∃ before c after s, calls = before ++ c :: after ∧
    (IndexedFields.empty.run before).outcome = .ok s ∧ (s.call c).outcome = .error e

/-- However fields are spread over calls, all calls succeed exactly if no name repeats, and then
the struct holds the fields and finds each by its name. Otherwise the first call that fails tells
the first repeat. Structs that are equal answer every lookup alike. -/
theorem adding_outcomes (calls : List AddCall) :
    ((∃ s, (IndexedFields.empty.run calls).outcome = .ok s) ↔
      ((addedFields calls).map Field.name).Nodup) ∧
    (∀ s, (IndexedFields.empty.run calls).outcome = .ok s → ∃ built : IndexedFields,
      (s.build : Logged TypeError IndexedFields).outcome = .ok built ∧
        built.Holds (addedFields calls)) ∧
    (∀ e, (IndexedFields.empty.run calls).outcome = .error e ↔ FirstFailure calls e) ∧
    (∀ e, FirstFailure calls e ↔ ∃ i j, FirstRepeat (addedFields calls) i j ∧
      e = .duplicateField ((addedFields calls).get i) ((addedFields calls).get j)) ∧
    ∀ s t : IndexedFields, s.same t = true → ∀ name,
      s.index? name = t.index? name ∧ s.field? name = t.field? name := by
  have hlist := IndexedFields.empty.map_outcome_run calls
  have hfail : ∀ e, (IndexedFields.empty.run calls).outcome = .error e ↔ FirstFailure calls e :=
    fun e => foldlM_eq_error_iff
  refine ⟨?_, ?_, hfail, ?_, fun s t h => IndexedFields.lookups_eq_of_same h⟩
  · refine Iff.trans ?_ FieldList.exists_empty_addAll_iff
    constructor
    · rintro ⟨s, hs⟩
      rw [hs] at hlist
      exact ⟨_, hlist.symm⟩
    · rintro ⟨l, hl⟩
      obtain ⟨s, hs, -⟩ := map_eq_ok_iff.1 (hlist.trans hl)
      exact ⟨s, hs⟩
  · intro s hs
    rw [hs] at hlist
    have hfields : s.fields = addedFields calls := FieldList.addAll_eq_ok_iff.1 hlist.symm
    exact ⟨s, rfl, hfields ▸ s.holds_fields⟩
  · intro e
    rw [← hfail, ← map_eq_error_iff, hlist]
    exact FieldList.empty_addAll_eq_error_iff

/-- Names that differ in case are different names. Of two names that repeat, the one whose second
field comes first is told. -/
theorem adding_outcomes_spread :
    (∃ s t, (IndexedFields.empty.run [.field "a" .bigint, .addAll [⟨"A", .string⟩, ⟨"b", .double⟩],
        .addAll []]).outcome = .ok s ∧
      (IndexedFields.empty.run [.addAll [⟨"a", .bigint⟩, ⟨"A", .string⟩],
        .add ⟨"b", .double⟩]).outcome = .ok t ∧
      s.same t = true ∧ (∀ name, s.index? name = t.index? name) ∧
      ∃ built : IndexedFields, (s.build : Logged TypeError IndexedFields).outcome = .ok built ∧
        built.index? "b" = some 2 ∧ built.field? "A" = some ⟨"A", .string⟩ ∧
        built.index? "B" = none) ∧
    (IndexedFields.empty.run [.add ⟨"a", .bigint⟩, .addAll [⟨"b", .string⟩, ⟨"b", .double⟩,
        ⟨"c", .double⟩], .field "a" .string]).outcome =
      .error (.duplicateField ⟨"b", .string⟩ ⟨"b", .double⟩) := by
  refine ⟨?_, ?_⟩
  · obtain ⟨hok, hbuilds, -, -, hsame⟩ := adding_outcomes [.field "a" .bigint,
      .addAll [⟨"A", .string⟩, ⟨"b", .double⟩], .addAll []]
    obtain ⟨s, hs⟩ := hok.2 (by decide)
    obtain ⟨t, ht, hfields⟩ : ∃ t, (IndexedFields.empty.run [
        .addAll [⟨"a", .bigint⟩, ⟨"A", .string⟩], .add ⟨"b", .double⟩]).outcome = .ok t ∧
        t.fields = [⟨"a", .bigint⟩, ⟨"A", .string⟩, ⟨"b", .double⟩] := ⟨_, rfl, rfl⟩
    obtain ⟨built, hbuild, hholds⟩ := hbuilds s hs
    obtain rfl : s = built := Except.ok.inj hbuild
    have hst : s.same t = true := decide_eq_true (hholds.fields_eq.trans hfields.symm)
    exact ⟨s, t, hs, ht, hst, fun name => (hsame s t hst name).1, s, rfl,
      (hholds.index?_eq_some_iff "b" ⟨2, by decide⟩).2 rfl,
      (hholds.field?_eq_some_iff "A" ⟨1, by decide⟩).2 rfl,
      (hholds.index?_eq_none_iff "B").2 (by decide)⟩
  · obtain ⟨-, -, hfails, hfirst, -⟩ := adding_outcomes [.add ⟨"a", .bigint⟩,
      .addAll [⟨"b", .string⟩, ⟨"b", .double⟩, ⟨"c", .double⟩], .field "a" .string]
    rw [hfails, hfirst]
    exact ⟨⟨1, by decide⟩, ⟨2, by decide⟩, ⟨by decide, rfl, by decide⟩, rfl⟩

end SqlSchema
