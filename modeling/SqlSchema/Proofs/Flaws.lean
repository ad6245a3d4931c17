import SqlSchema.Proofs.Places

/-!
# Flaws of a text

A text of the grammar may still describe no type: a decimal has impossible bounds, or a field has
the name of an earlier one of its struct. Either is a flaw that some tokens end with (`IsFlaw`). A
text may have several of them, one inside another or one behind another. `FirstFlaw` picks the one
whose last token comes first and, among those with the same last token, the innermost.

A flaw tells one error (`Flaw.Reports`). Among the fields of a struct it is the one that a list of
fields gives when it refuses a field (`reports_of_add_eq_error`).
-/

namespace SqlSchema.Syntax

open Log

/-! ## Flaws -/

/-- What is wrong with a construct: the bounds of a decimal whose keyword is at the offset, or the
name of a field behind earlier ones. -/
inductive Flaw where
  | bounds (offset : Nat) (precision scale : UInt32)
  | repeated (earlier : List FieldTree) (field : FieldTree)

namespace Flaw

/-- Where the construct starts: the keyword of the decimal or the name of the repeated field. -/
def offset : Flaw → Nat
  | bounds o _ _ => o
  | repeated _ f => f.offset

/-- The error tells about this flaw: it points at its start and carries the bounds, or the earlier
field of the name and the repeated one, each with its type. -/
def Reports : Flaw → ParseError → Prop
  | bounds o p s, e => e = .invalid (.invalidDecimal p s) o
  | repeated earlier f, e => ∃ g t u, earlier.find? (fun g => g.name = f.name) = some g ∧
      g.type.type? = some t ∧ f.type.type? = some u ∧
      e = .invalid (.duplicateField ⟨g.name, t⟩ ⟨f.name, u⟩) f.offset

end Flaw

/-- The tokens between the bracket of a struct and the name of a field, with the fields before
it. -/
inductive EarlierFields : Tokens → List FieldTree → Prop
  | first : EarlierFields [] []
  | behind {ts : Tokens} {fs : List FieldTree} {o : Nat} : DerivesFields ts fs →
      EarlierFields (ts ++ [⟨.comma, o⟩]) fs

/-- The tokens are a decimal with impossible bounds, or a struct up to the end of a field that has
the name of an earlier one. -/
inductive IsFlaw : Tokens → Flaw → Prop
  | bounds {ts : Tokens} {o : Nat} {p s : UInt32} : Derives ts (.decimal o p s) →
      ¬ (1 ≤ p ∧ s ≤ p) → IsFlaw ts (.bounds o p s)
  | repeated {w : String} {o o₁ o₂ : Nat} {us ts : Tokens} {fs : List FieldTree} {k : Token}
      {name : String} {x : Tree} : IsKeyword w (.container .struct) →
      EarlierFields us fs → k.name? = some name → Derives ts x → name ∈ fs.map FieldTree.name →
      IsFlaw (⟨.ident w, o⟩ :: ⟨.lt, o₁⟩ :: (us ++ ⟨k, o₂⟩ :: ts)) (.repeated fs ⟨name, o₂, x⟩)

/-- The last tokens of a text are a flaw. -/
def EndsFlawed (ts : Tokens) (flaw : Flaw) : Prop :=
  ∃ us, us <:+ ts ∧ IsFlaw us flaw

/-- A text has a flaw somewhere. -/
def Flawed (ts : Tokens) : Prop :=
  ∃ us flaw, us <+: ts ∧ EndsFlawed us flaw

/-- The flaw whose last token comes first in the text. Of two flaws with the same last token one is
inside the other and starts later. -/
def FirstFlaw (ts : Tokens) (flaw : Flaw) : Prop :=
  ∃ us, us <+: ts ∧ EndsFlawed us flaw ∧ ∀ vs other, vs <+: ts → EndsFlawed vs other →
    us.length < vs.length ∨ us = vs ∧ other.offset ≤ flaw.offset

theorem EndsFlawed.append_left {ts : Tokens} {flaw : Flaw} (h : EndsFlawed ts flaw)
    (lead : Tokens) : EndsFlawed (lead ++ ts) flaw := by
  obtain ⟨us, hs, hf⟩ := h
  exact ⟨us, hs.trans (List.suffix_append lead ts), hf⟩

theorem FirstFlaw.flawed {ts : Tokens} {flaw : Flaw} (h : FirstFlaw ts flaw) : Flawed ts := by
  obtain ⟨us, hus, hf, -⟩ := h
  exact ⟨us, flaw, hus, hf⟩

theorem Flaw.Reports.eq {flaw : Flaw} {e e' : ParseError} (h : flaw.Reports e)
    (h' : flaw.Reports e') : e = e' := by
  cases flaw with
  | bounds o p s => exact h.trans h'.symm
  | repeated earlier f =>
    obtain ⟨g, t, u, hg, ht, hu, rfl⟩ := h
    obtain ⟨g', t', u', hg', ht', hu', rfl⟩ := h'
    rw [hg] at hg'
    obtain rfl := Option.some.inj hg'
    rw [ht] at ht'
    rw [hu] at hu'
    rw [Option.some.inj ht', Option.some.inj hu']

theorem Flaw.Reports.exists_invalid {flaw : Flaw} {e : ParseError} (h : flaw.Reports e) :
    ∃ cause, e = .invalid cause flaw.offset := by
  cases flaw with
  | bounds o p s => exact ⟨_, h⟩
  | repeated earlier f =>
    obtain ⟨g, t, u, -, -, -, rfl⟩ := h
    exact ⟨_, rfl⟩

theorem Flaw.Reports.offset_eq {flaw other : Flaw} {e : ParseError} (h : flaw.Reports e)
    (h' : other.Reports e) : flaw.offset = other.offset := by
  obtain ⟨c, rfl⟩ := h.exists_invalid
  obtain ⟨c', hc'⟩ := h'.exists_invalid
  exact (ParseError.invalid.inj hc').2

theorem IsFlaw.exists_token {ts : Tokens} {flaw : Flaw} (h : IsFlaw ts flaw) :
    ∃ k ∈ ts, k.offset = flaw.offset := by
  cases h with
  | bounds hx =>
    cases hx with
    | decimal hw => exact ⟨_, List.mem_cons_self, rfl⟩
  | @repeated w o o₁ o₂ us ts fs k name x hw hb hk hx hn =>
    exact ⟨⟨k, o₂⟩, by simp, rfl⟩

theorem EarlierFields.snoc {ts us : Tokens} {fs : List FieldTree} {k : Token} {name : String}
    {x : Tree} (h : EarlierFields ts fs) (hk : k.name? = some name) (hx : Derives us x)
    (o o₁ : Nat) :
    EarlierFields (ts ++ ⟨k, o⟩ :: (us ++ [⟨.comma, o₁⟩])) (fs ++ [⟨name, o, x⟩]) := by
  cases h with
  | first => exact .behind (.one hk hx)
  | @behind ts fs o₂ hf =>
    have hall : DerivesFields (ts ++ ⟨.comma, o₂⟩ :: ⟨k, o⟩ :: us) _ := hf.snoc hk hx
    have heq : ts ++ [⟨.comma, o₂⟩] ++ ⟨k, o⟩ :: (us ++ [⟨.comma, o₁⟩]) =
        ts ++ ⟨.comma, o₂⟩ :: ⟨k, o⟩ :: us ++ [⟨.comma, o₁⟩] := by simp
    rw [heq]
    exact .behind hall

theorem Derives.exists_concat {ts : Tokens} {x : Tree} (hx : Derives ts x) :
    ∃ init k, ts = init ++ [k] := by
  obtain ⟨w, kw, us, -, hts, -⟩ := hx.exists_heads
  rcases List.eq_nil_or_concat ts with rfl | h
  · cases hts
  · simpa using h

theorem IsFlaw.ne_nil {ts : Tokens} {flaw : Flaw} (h : IsFlaw ts flaw) : ts ≠ [] := by
  rintro rfl
  obtain ⟨k, hk, -⟩ := h.exists_token
  exact List.not_mem_nil hk

theorem EndsFlawed.exists_concat {ts : Tokens} {flaw : Flaw} (h : EndsFlawed ts flaw) :
    ∃ init k, ts = init ++ [k] := by
  obtain ⟨us, hs, hf⟩ := h
  rcases List.eq_nil_or_concat ts with rfl | h
  · exact absurd (List.suffix_nil.1 hs) hf.ne_nil
  · simpa using h

/-! ## What a flaw makes of its type -/

theorem ofBounds_eq_error_iff {p s : UInt32} {c : TypeError} :
    DecimalType.ofBounds p s = .error c ↔ ¬ (1 ≤ p ∧ s ≤ p) ∧ c = .invalidDecimal p s := by
  unfold DecimalType.ofBounds
  split
  · next h => simp [h]
  · next h =>
    constructor
    · intro hc
      exact ⟨h, (Except.error.inj hc).symm⟩
    · rintro ⟨-, rfl⟩
      rfl

theorem names_of_fieldTypes? {fs : List FieldTree} {gs : List Field}
    (h : fieldTypes? fs = some gs) : gs.map Field.name = fs.map FieldTree.name := by
  induction fs generalizing gs with
  | nil =>
    obtain rfl := Option.some.inj h
    rfl
  | cons f fs ih =>
    obtain ⟨name, o, x⟩ := f
    obtain ⟨t, -, gs, hgs, rfl⟩ := fieldTypes?_cons_eq_some_iff.1 h
    rw [List.map_cons, List.map_cons, ih hgs]

theorem fieldTypes?_snoc {fs : List FieldTree} {gs : List Field} {x : Tree} {t : DataType}
    (name : String) (o : Nat) (h : fieldTypes? fs = some gs) (ht : x.type? = some t) :
    fieldTypes? (fs ++ [⟨name, o, x⟩]) = some (gs ++ [⟨name, t⟩]) := by
  induction fs generalizing gs with
  | nil =>
    obtain rfl := Option.some.inj h
    exact fieldTypes?_cons_eq_some_iff.2 ⟨t, ht, [], rfl, rfl⟩
  | cons f fs ih =>
    obtain ⟨n, o', y⟩ := f
    obtain ⟨u, hu, gs, hgs, rfl⟩ := fieldTypes?_cons_eq_some_iff.1 h
    exact fieldTypes?_cons_eq_some_iff.2 ⟨u, hu, _, ih hgs, rfl⟩

theorem exists_find?_of_fieldTypes? {fs : List FieldTree} {gs : List Field} {name : String}
    {f : Field} (h : fieldTypes? fs = some gs) (hf : findField? gs name = some f) :
    ∃ g t, fs.find? (fun g => g.name = name) = some g ∧ g.type.type? = some t ∧
      f = ⟨g.name, t⟩ := by
  induction fs generalizing gs with
  | nil =>
    obtain rfl := Option.some.inj h
    cases hf
  | cons g fs ih =>
    obtain ⟨n, o, x⟩ := g
    obtain ⟨t, ht, gs, hgs, rfl⟩ := fieldTypes?_cons_eq_some_iff.1 h
    by_cases hn : n = name
    · rw [findField?, List.find?_cons_of_pos (by simpa using hn)] at hf
      exact ⟨_, t, List.find?_cons_of_pos (by simpa using hn), ht, (Option.some.inj hf).symm⟩
    · rw [findField?, List.find?_cons_of_neg (by simpa using hn)] at hf
      obtain ⟨g', t', hg', ht', rfl⟩ := ih hgs hf
      exact ⟨g', t', by rw [List.find?_cons_of_neg (by simpa using hn), hg'], ht', rfl⟩

/-- A field that is refused has the name of an earlier one, and the refusal tells so. -/
theorem reports_of_add_eq_error {fs : List FieldTree} {l : FieldList} {name : String} {x : Tree}
    {t : DataType} {c : TypeError} (hl : fieldTypes? fs = some l.fields) (ht : x.type? = some t)
    (hadd : (l.add ⟨name, t⟩).outcome = .error c) (o : Nat) :
    name ∈ fs.map FieldTree.name ∧
      (Flaw.repeated fs ⟨name, o, x⟩).Reports (.invalid c o) := by
  obtain ⟨existing, hf, rfl⟩ := FieldList.add_eq_error_iff.1 hadd
  obtain ⟨g, u, hg, hu, rfl⟩ := exists_find?_of_fieldTypes? hl hf
  have hname : g.name = name := by simpa using List.find?_some hg
  exact ⟨List.mem_map.2 ⟨g, List.mem_of_find?_eq_some hg, hname⟩, g, u, t, hg, hu, ht, rfl⟩

theorem exists_error_of_mem {fs : List FieldTree} {l : FieldList} {name : String}
    (hl : fieldTypes? fs = some l.fields) (hn : name ∈ fs.map FieldTree.name) (t : DataType) :
    ∃ c, (l.add ⟨name, t⟩).outcome = .error c := by
  rw [← names_of_fieldTypes? hl] at hn
  cases hf : findField? l.fields name with
  | none => exact absurd hn (findField?_eq_none_iff.1 hf)
  | some existing => exact ⟨_, FieldList.outcome_add_of_taken hf⟩

end SqlSchema.Syntax
