import SqlSchema.Proofs.Parts
import SqlSchema.Proofs.TypeReading
import SqlSchema.Proofs.Written

/-!
# Reading back the text of a type

The text of a type is read as this type if the type is nested at most as deep as it may be. Else
reading ends at the first part in reading order that stands one level too deep
(`readType_render`).
-/

namespace SqlSchema

open Syntax

/-- The part stands at the first level at which no type may stand. -/
def Part.isTooDeep (p : Part) : Bool :=
  p.level = nestingLimit + 1

/-- A value, or the fault that a part stands too deep. -/
def orTooDeep {α : Type} (a : α) : Option Part → Except ParseError α
  | none => .ok a
  | some p => .error (.tooDeep p.offset)

theorem map_orTooDeep {α β : Type} (f : α → β) (a : α) (p : Option Part) :
    (orTooDeep a p).map f = orTooDeep (f a) p := by
  cases p <;> rfl

theorem DataType.exists_parts (reserved : ReservedWords) (level n : Nat) (t : DataType) :
    ∃ tail, t.parts reserved level n = ⟨t, level, n⟩ :: tail := by
  cases t <;> exact ⟨_, rfl⟩

theorem find?_cons_of_lt {depth : Nat} (hd : depth < nestingLimit) (t : DataType) (n : Nat)
    (ps : List Part) :
    ((⟨t, depth + 1, n⟩ : Part) :: ps).find? Part.isTooDeep = ps.find? Part.isTooDeep := by
  refine List.find?_cons_of_neg ?_
  simp only [Part.isTooDeep, decide_eq_true_eq]
  omega

/-- A type that stands too deep is the first part that does. -/
theorem DataType.resolve_tree_limit (reserved : ReservedWords) (n : Nat) (t : DataType) :
    (t.tree reserved n).resolve nestingLimit =
      orTooDeep t ((t.parts reserved (nestingLimit + 1) n).find? Part.isTooDeep) := by
  obtain ⟨tail, htail⟩ := t.exists_parts reserved (nestingLimit + 1) n
  have hdeep : Part.isTooDeep ⟨t, nestingLimit + 1, n⟩ := decide_eq_true rfl
  rw [htail, List.find?_cons_of_pos hdeep, Tree.resolve.eq_def, if_neg (Nat.lt_irrefl _),
    t.offset_tree]
  rfl

mutual

/-- The tree of a well-formed type comes to the type unless a part of it stands too deep. -/
theorem DataType.resolve_tree (reserved : ReservedWords) {depth : Nat} (n : Nat) (t : DataType)
    (h : t.WellFormed) (hd : depth ≤ nestingLimit) : (t.tree reserved n).resolve depth =
      orTooDeep t ((t.parts reserved (depth + 1) n).find? Part.isTooDeep) := by
  rcases Nat.lt_or_eq_of_le hd with hlt | rfl
  · -- Above the limit the type itself is no fault, so the first one is that of its parts.
    cases t with
    | boolean | integer | bigint | double | string =>
      rw [DataType.parts, find?_cons_of_lt hlt, DataType.tree, Tree.resolve, if_pos hlt]
      all_goals first | rfl | simp
    | decimal d =>
      have hbounds : DecimalType.ofBounds d.precision d.scale = .ok d :=
        ofBounds_eq_ok_iff.2 ⟨rfl, rfl⟩
      rw [DataType.parts, find?_cons_of_lt hlt, DataType.tree, Tree.resolve, if_pos hlt, hbounds]
      all_goals first | rfl | simp
    | array item =>
      rw [DataType.parts, find?_cons_of_lt hlt, DataType.tree, Tree.resolve, if_pos hlt,
        item.resolve_tree reserved _ h hlt, map_orTooDeep]
    | map key value =>
      rw [DataType.parts, find?_cons_of_lt hlt, DataType.tree, Tree.resolve, if_pos hlt,
        List.find?_append, key.resolve_tree reserved _ h.1 hlt]
      cases (key.parts reserved (depth + 1 + 1) (n + 4)).find? Part.isTooDeep with
      | some p => rfl
      | none =>
        rw [value.resolve_tree reserved _ h.2 hlt]
        exact map_orTooDeep _ value _
    | struct fields =>
      have hfields : (⟨fields, h.1⟩ : FieldList).fields = FieldList.empty.fields ++ fields := rfl
      rw [DataType.parts, find?_cons_of_lt hlt, DataType.tree, Tree.resolve, if_pos hlt,
        resolveFields_fieldTrees reserved _ fields h.2 hlt hfields, map_orTooDeep]
  · exact t.resolve_tree_limit reserved n

theorem resolveFields_fieldTrees (reserved : ReservedWords) {depth : Nat} (n : Nat)
    (fs : List Field) (h : AllWellFormed fs) (hd : depth ≤ nestingLimit) {l l' : FieldList}
    (hl : l'.fields = l.fields ++ fs) : resolveFields depth l (fieldTrees reserved n fs) =
      orTooDeep l' ((fieldParts reserved (depth + 1) n fs).find? Part.isTooDeep) := by
  cases fs with
  | nil =>
    rw [List.append_nil] at hl
    rw [FieldList.eq_of_fields_eq hl]
    rfl
  | cons f fs =>
    obtain ⟨name, type⟩ := f
    have hl' : l'.fields = (l.fields ++ [⟨name, type⟩]) ++ fs := by rw [hl, List.append_cons]
    have hdistinct : ((l.fields ++ [(⟨name, type⟩ : Field)]).map Field.name).Nodup := by
      have h' := l'.distinct
      rw [hl', List.map_append, List.nodup_append] at h'
      exact h'.1
    obtain ⟨l₁, hadd, hl₁⟩ := FieldList.exists_add hdistinct
    rw [fieldTrees, resolveFields, fieldParts, List.find?_append,
      type.resolve_tree reserved _ h.1 hd]
    cases (type.parts reserved (depth + 1) _).find? Part.isTooDeep with
    | some p => rfl
    | none =>
      show ((l.add ⟨name, type⟩).outcome.mapError _ >>= _) = _
      rw [hadd]
      refine resolveFields_fieldTrees reserved _ fs h.2 hd ?_
      rw [hl₁]
      exact hl'

end

theorem DataType.resolve_tree_eq_ok (reserved : ReservedWords) (n : Nat) {t : DataType}
    (h : t.WellFormed) (hn : t.nesting ≤ nestingLimit) :
    (t.tree reserved n).resolve 0 = .ok t := by
  obtain ⟨ts, -, hd⟩ := t.exists_tokens reserved n
  have ht := t.type?_tree reserved n h
  rw [(hd.nesting_eq ht).1] at hn
  rw [Tree.resolve_eq_ok_iff, Nat.zero_add]
  exact ⟨ht, hn⟩

theorem DataType.exists_tooDeep (reserved : ReservedWords) (n : Nat) {t : DataType}
    (h : t.WellFormed) (hn : nestingLimit < t.nesting) :
    ∃ p, (t.parts reserved 1 n).find? Part.isTooDeep = some p := by
  obtain ⟨ts, -, hd⟩ := t.exists_tokens reserved n
  have ht := t.type?_tree reserved n h
  have hnot : (t.tree reserved n).resolve 0 ≠ .ok t := by
    rw [Ne, Tree.resolve_eq_ok_iff, ← (hd.nesting_eq ht).1]
    omega
  rw [t.resolve_tree reserved n h (Nat.zero_le _)] at hnot
  cases hp : (t.parts reserved 1 n).find? Part.isTooDeep with
  | none =>
    rw [hp] at hnot
    exact absurd rfl hnot
  | some p => exact ⟨p, rfl⟩

/-! ## Texts -/

theorem readType_render_eq (reserved : ReservedWords) (t : DataType) :
    (readType (t.render reserved)).outcome = (t.tree reserved 0).resolve 0 := by
  obtain ⟨ts, hts, hd⟩ := t.exists_tokens reserved 0
  rw [readType_outcome, hts.tokenize_eq]
  exact hd.readAll_eq _

/-- In parts that are listed in the order of their places, the first one found comes first. -/
theorem offset_le_of_find? {ps : List Part} (hs : ps.Pairwise fun p q => p.offset < q.offset)
    {f : Part → Bool} {p q : Part} (hp : ps.find? f = some p) (hq : q ∈ ps) (hf : f q) :
    p.offset ≤ q.offset := by
  obtain ⟨-, as, bs, rfl, has⟩ := List.find?_eq_some_iff_append.1 hp
  rw [List.pairwise_append] at hs
  rcases List.mem_append.1 hq with hq | hq
  · exact absurd hf (by simpa using has q hq)
  · rcases List.mem_cons.1 hq with rfl | hq
    · exact Nat.le_refl _
    · exact Nat.le_of_lt ((List.pairwise_cons.1 hs.2.1).1 q hq)

/-- The text of a well-formed type is read as the type if its levels are within the limit. If they
are not, the fault is at the first part in the text that stands one level below the limit. -/
theorem readType_render (reserved : ReservedWords) (t : DataType) (h : t.WellFormed) :
    (t.nesting ≤ nestingLimit → (readType (t.render reserved)).outcome = .ok t) ∧
    (nestingLimit < t.nesting → ∃ p ∈ t.parts reserved 1 0, p.level = nestingLimit + 1 ∧
      p.StandsIn reserved 0 (t.render reserved) ∧
      (∀ q ∈ t.parts reserved 1 0, q.level = nestingLimit + 1 → p.offset ≤ q.offset) ∧
      (readType (t.render reserved)).outcome = .error (.tooDeep p.offset)) := by
  rw [readType_render_eq]
  constructor
  · intro hn
    exact DataType.resolve_tree_eq_ok reserved 0 h hn
  · intro hn
    obtain ⟨p, hp⟩ := DataType.exists_tooDeep reserved 0 h hn
    have hmem := List.mem_of_find?_eq_some hp
    have hdeep := List.find?_some hp
    refine ⟨p, hmem, of_decide_eq_true hdeep, t.standsIn_of_mem_parts hmem, ?_, ?_⟩
    · intro q hq hlevel
      exact offset_le_of_find? (t.pairwise_parts reserved 1 0) hp hq (decide_eq_true hlevel)
    · rw [t.resolve_tree reserved 0 h (Nat.zero_le _), hp]
      rfl

/-- Names without characters, with a backtick and like a keyword are read back; an integer inside
256 arrays is not. -/
theorem readType_render_names :
    let t : DataType := .struct [⟨"", .map .string (.array .integer)⟩, ⟨"a\x60, b", .struct []⟩,
      ⟨"ARRAY", .decimal ⟨9, 2, by decide, by decide⟩⟩]
    let u : DataType := Nat.repeat .array 256 .integer
    (t.WellFormed ∧ t.nesting ≤ nestingLimit ∧ (readType (t.render .none)).outcome = .ok t) ∧
    (u.WellFormed ∧ nestingLimit < u.nesting ∧
      ∃ o, (readType (u.render .none)).outcome = .error (.tooDeep o)) := by
  intro t u
  have ht : t.WellFormed :=
    ⟨by decide, ⟨trivial, trivial⟩, ⟨List.nodup_nil, trivial⟩, trivial, trivial⟩
  have htn : t.nesting ≤ nestingLimit := by decide
  have hu : u.WellFormed := by
    unfold u
    exact trivial
  have hun : nestingLimit < u.nesting := by decide +kernel
  obtain ⟨p, -, -, -, -, hp⟩ := (readType_render .none u hu).2 hun
  exact ⟨⟨ht, htn, (readType_render .none t ht).1 htn⟩, hu, hun, p.offset, hp⟩

end SqlSchema
