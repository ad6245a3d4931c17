import SqlSchema.Proofs.Grammar
import SqlSchema.Proofs.Nesting
import SqlSchema.Proofs.Outcomes

/-!
# What a syntax tree comes to

`Tree.resolve` gives the type of a syntax tree, or the first fault in the order in which the text is
read: a type that stands too deep, impossible bounds of a decimal or a repeated name of a field.
There is no fault exactly if the tree has a type and is not nested too deep
(`Tree.resolve_eq_ok_iff`).
-/

namespace SqlSchema.Syntax

def Tree.offset : Tree → Nat
  | .simple o _ | .decimal o _ _ | .array o _ | .map o _ _ | .struct o _ => o

mutual

def Tree.nesting : Tree → Nat
  | .simple _ _ | .decimal _ _ _ => 1
  | .array _ x => x.nesting + 1
  | .map _ k v => max k.nesting v.nesting + 1
  | .struct _ fs => fieldTreesNesting fs + 1

/-- The number of levels below a struct with these fields. -/
def fieldTreesNesting : List FieldTree → Nat
  | [] => 0
  | ⟨_, _, x⟩ :: fs => max x.nesting (fieldTreesNesting fs)

end

theorem Tree.one_le_nesting (x : Tree) : 1 ≤ x.nesting := by
  cases x <;> simp [Tree.nesting]

mutual

/-- What a type comes to when `depth` types are open around it. -/
def Tree.resolve (depth : Nat) (x : Tree) : Except ParseError DataType :=
  if depth < nestingLimit then
    match x with
    | .simple _ t => .ok t
    | .decimal o p s => ((DecimalType.ofBounds p s).mapError (.invalid · o)).map .decimal
    | .array _ x => (x.resolve (depth + 1)).map .array
    | .map _ k v => do return .map (← k.resolve (depth + 1)) (← v.resolve (depth + 1))
    | .struct _ fs => (resolveFields (depth + 1) .empty fs).map fun l => .struct l.fields
  else
    .error (.tooDeep x.offset)

/-- What fields behind others come to. -/
def resolveFields (depth : Nat) (l : FieldList) : List FieldTree → Except ParseError FieldList
  | [] => .ok l
  | ⟨name, o, x⟩ :: fs => do
    let t ← x.resolve depth
    let l ← (l.add ⟨name, t⟩).outcome.mapError (.invalid · o)
    resolveFields depth l fs

end

/-! ## Types and resolutions -/

theorem ofBounds_eq_ok_iff {p s : UInt32} {d : DecimalType} :
    DecimalType.ofBounds p s = .ok d ↔ d.precision = p ∧ d.scale = s := by
  unfold DecimalType.ofBounds
  split
  · next h =>
    constructor
    · intro hd
      rw [← Except.ok.inj hd]
      exact ⟨rfl, rfl⟩
    · rintro ⟨rfl, rfl⟩
      rfl
  · next h =>
    constructor
    · intro hd
      cases hd
    · rintro ⟨rfl, rfl⟩
      exact absurd ⟨d.precision_pos, d.scale_le⟩ h

theorem Tree.type?_decimal_eq_some_iff {o : Nat} {p s : UInt32} {t : DataType} :
    (Tree.decimal o p s).type? = some t ↔
      ∃ d, (d.precision = p ∧ d.scale = s) ∧ .decimal d = t := by
  rw [Tree.type?]
  constructor
  · intro ht
    split at ht
    · next hp =>
      split at ht
      · next hs => exact ⟨⟨p, s, hp, hs⟩, ⟨rfl, rfl⟩, Option.some.inj ht⟩
      · cases ht
    · cases ht
  · rintro ⟨d, ⟨rfl, rfl⟩, rfl⟩
    rw [dif_pos d.precision_pos, dif_pos d.scale_le]

theorem Tree.type?_struct_eq_some_iff {o : Nat} {fs : List FieldTree} {t : DataType} :
    (Tree.struct o fs).type? = some t ↔
      ∃ gs, fieldTypes? fs = some gs ∧ (gs.map Field.name).Nodup ∧ .struct gs = t := by
  simp only [Tree.type?, Option.bind_eq_bind, Option.bind_eq_some_iff,
    Option.ite_none_right_eq_some, Option.some.injEq]

theorem Tree.type?_map_eq_some_iff {o : Nat} {k v : Tree} {t : DataType} :
    (Tree.map o k v).type? = some t ↔
      ∃ a, k.type? = some a ∧ ∃ b, v.type? = some b ∧ .map a b = t := by
  simp only [Tree.type?, Option.bind_eq_bind, Option.bind_eq_some_iff, Option.pure_def,
    Option.some.injEq]

theorem fieldTypes?_cons_eq_some_iff {name : String} {o : Nat} {x : Tree} {fs : List FieldTree}
    {gs : List Field} : fieldTypes? (⟨name, o, x⟩ :: fs) = some gs ↔
      ∃ t, x.type? = some t ∧ ∃ gs', fieldTypes? fs = some gs' ∧ ⟨name, t⟩ :: gs' = gs := by
  simp only [fieldTypes?, Option.bind_eq_bind, Option.bind_eq_some_iff, Option.pure_def,
    Option.some.injEq]

mutual

/-- A tree has no fault exactly if it has a type and is not nested too deep. -/
theorem Tree.resolve_eq_ok_iff {depth : Nat} {t : DataType} (x : Tree) :
    x.resolve depth = .ok t ↔ x.type? = some t ∧ depth + x.nesting ≤ nestingLimit := by
  have hpos := x.one_le_nesting
  rw [Tree.resolve.eq_def]
  split
  · next hd =>
    cases x with
    | simple o t' =>
      rw [Tree.type?, Tree.nesting]
      constructor
      · intro h
        exact ⟨congrArg some (Except.ok.inj h), hd⟩
      · rintro ⟨h, -⟩
        exact congrArg Except.ok (Option.some.inj h)
    | decimal o p s =>
      simp only [map_eq_ok_iff, mapError_eq_ok_iff, ofBounds_eq_ok_iff,
        Tree.type?_decimal_eq_some_iff]
      constructor
      · intro h
        exact ⟨h, hd⟩
      · rintro ⟨h, -⟩
        exact h
    | array o x =>
      simp only [map_eq_ok_iff, x.resolve_eq_ok_iff, Tree.type?, Option.map_eq_some_iff,
        Tree.nesting]
      constructor
      · rintro ⟨t', ⟨ht, hn⟩, rfl⟩
        exact ⟨⟨t', ht, rfl⟩, by omega⟩
      · rintro ⟨⟨t', ht, rfl⟩, hn⟩
        exact ⟨t', ⟨ht, by omega⟩, rfl⟩
    | map o k v =>
      simp only [bind_eq_ok_iff, k.resolve_eq_ok_iff, v.resolve_eq_ok_iff,
        Tree.type?_map_eq_some_iff, Tree.nesting]
      constructor
      · rintro ⟨a, ⟨ha, hna⟩, b, ⟨hb, hnb⟩, ht⟩
        obtain rfl := Except.ok.inj ht
        exact ⟨⟨a, ha, b, hb, rfl⟩, by omega⟩
      · rintro ⟨⟨a, ha, b, hb, rfl⟩, hn⟩
        exact ⟨a, ⟨ha, by omega⟩, b, ⟨hb, by omega⟩, rfl⟩
    | struct o fs =>
      simp only [map_eq_ok_iff, resolveFields_eq_ok_iff hd, Tree.type?_struct_eq_some_iff,
        Tree.nesting]
      constructor
      · rintro ⟨l, ⟨hl, hn⟩, rfl⟩
        exact ⟨⟨l.fields, by simpa [FieldList.empty] using hl, l.distinct, rfl⟩, by omega⟩
      · rintro ⟨⟨gs, hg, hnd, rfl⟩, hn⟩
        exact ⟨⟨gs, hnd⟩, ⟨⟨gs, hg, rfl⟩, by omega⟩, rfl⟩
  · next hd =>
    constructor
    · intro h
      cases h
    · rintro ⟨-, hn⟩
      omega

/-- Fields join others without a fault exactly if their types have none and no name repeats. -/
theorem resolveFields_eq_ok_iff {depth : Nat} {l l' : FieldList} (hd : depth ≤ nestingLimit)
    (fs : List FieldTree) : resolveFields depth l fs = .ok l' ↔
      (∃ gs, fieldTypes? fs = some gs ∧ l'.fields = l.fields ++ gs) ∧
        depth + fieldTreesNesting fs ≤ nestingLimit := by
  cases fs with
  | nil =>
    rw [resolveFields, fieldTypes?, fieldTreesNesting]
    constructor
    · intro h
      obtain rfl := Except.ok.inj h
      exact ⟨⟨[], rfl, by simp⟩, hd⟩
    · rintro ⟨⟨gs, hg, hl⟩, -⟩
      obtain rfl := Option.some.inj hg
      rw [List.append_nil] at hl
      rw [FieldList.eq_of_fields_eq hl]
  | cons f fs =>
    obtain ⟨name, o, x⟩ := f
    rw [resolveFields, fieldTreesNesting]
    simp only [bind_eq_ok_iff, x.resolve_eq_ok_iff, mapError_eq_ok_iff,
      resolveFields_eq_ok_iff hd fs, fieldTypes?_cons_eq_some_iff]
    constructor
    · rintro ⟨t, ⟨ht, hn⟩, l₁, hl₁, ⟨gs, hg, hl'⟩, hns⟩
      refine ⟨⟨⟨name, t⟩ :: gs, ⟨t, ht, gs, hg, rfl⟩, ?_⟩, by omega⟩
      rw [hl', FieldList.fields_of_add hl₁, List.append_assoc]
      rfl
    · rintro ⟨⟨gs, ⟨t, ht, gs', hg, rfl⟩, hl'⟩, hn⟩
      have hdist := l'.distinct
      rw [hl', ← List.singleton_append, ← List.append_assoc, List.map_append,
        List.nodup_append] at hdist
      obtain ⟨l₁, hadd, hl₁⟩ := FieldList.exists_add hdist.1
      refine ⟨t, ⟨ht, by omega⟩, l₁, hadd, ⟨gs', hg, ?_⟩, by omega⟩
      rw [hl', hl₁, List.append_assoc]
      rfl

end

/-! ## The nesting of a derived type -/

theorem nesting_of_keyword {w : String} {t : DataType} (h : IsKeyword w (.simple t)) :
    t.nesting = 1 ∧ t.WellFormed := by
  obtain ⟨word, hword, -⟩ := h
  cases hword <;> exact ⟨rfl, trivial⟩

mutual

/-- The type of a derived tree is nested as deep as the tree, and well formed. -/
theorem Derives.nesting_eq {ts : Tokens} {x : Tree} {t : DataType} (hx : Derives ts x)
    (ht : x.type? = some t) : t.nesting = x.nesting ∧ t.WellFormed := by
  cases hx with
  | simple hw =>
    obtain rfl := Option.some.inj ht
    exact nesting_of_keyword hw
  | decimal hw =>
    obtain ⟨d, -, rfl⟩ := Tree.type?_decimal_eq_some_iff.1 ht
    exact ⟨rfl, trivial⟩
  | array hw hx =>
    obtain ⟨a, ha, rfl⟩ := Option.map_eq_some_iff.1 ht
    obtain ⟨hn, hwf⟩ := hx.nesting_eq ha
    exact ⟨by rw [DataType.nesting, Tree.nesting, hn], hwf⟩
  | map hw hk hv =>
    obtain ⟨a, ha, b, hb, rfl⟩ := Tree.type?_map_eq_some_iff.1 ht
    obtain ⟨hna, hwa⟩ := hk.nesting_eq ha
    obtain ⟨hnb, hwb⟩ := hv.nesting_eq hb
    exact ⟨by rw [DataType.nesting, Tree.nesting, hna, hnb], hwa, hwb⟩
  | emptyStruct hw =>
    obtain ⟨gs, hg, hnd, rfl⟩ := Tree.type?_struct_eq_some_iff.1 ht
    obtain rfl := Option.some.inj hg
    exact ⟨rfl, hnd, trivial⟩
  | struct hw hf =>
    obtain ⟨gs, hg, hnd, rfl⟩ := Tree.type?_struct_eq_some_iff.1 ht
    obtain ⟨hn, hwf⟩ := hf.nesting_eq hg
    exact ⟨by rw [DataType.nesting, Tree.nesting, hn], hnd, hwf⟩

theorem DerivesFields.nesting_eq {ts : Tokens} {fs : List FieldTree} {gs : List Field}
    (hf : DerivesFields ts fs) (hg : fieldTypes? fs = some gs) :
    fieldsNesting gs = fieldTreesNesting fs ∧ AllWellFormed gs := by
  cases hf with
  | one hk hx =>
    obtain ⟨t, ht, gs', hg', rfl⟩ := fieldTypes?_cons_eq_some_iff.1 hg
    obtain rfl := Option.some.inj hg'
    obtain ⟨hn, hwf⟩ := hx.nesting_eq ht
    exact ⟨by rw [fieldsNesting, fieldTreesNesting, hn]; rfl, hwf, trivial⟩
  | cons hk hx hf =>
    obtain ⟨t, ht, gs', hg', rfl⟩ := fieldTypes?_cons_eq_some_iff.1 hg
    obtain ⟨hn, hwf⟩ := hx.nesting_eq ht
    obtain ⟨hns, hwfs⟩ := hf.nesting_eq hg'
    exact ⟨by rw [fieldsNesting, fieldTreesNesting, hn, hns], hwf, hwfs⟩

end

end SqlSchema.Syntax
