import SqlSchema.Proofs.Grammar

/-!
# A text has one meaning

The type at the start of some tokens is determined by them, and so is where it ends
(`Derives.eq_of_append_eq`). So a list of tokens has at most one meaning as a type, and as a column
list (`DerivesColumns.eq_of_items_eq`).
-/

namespace SqlSchema.Syntax

/-- Fields do not start with the bracket that closes a struct without fields. -/
theorem DerivesFields.append_ne_gt {ts : Tokens} {fs : List FieldTree} {r r' : List Token}
    (hf : DerivesFields ts fs) : items ts ++ r ≠ .gt :: r' := by
  obtain ⟨k, name, w, us, hts, hk⟩ := hf.exists_cons
  rw [hts, List.cons_append]
  intro h
  rw [(List.cons.inj h).1] at hk
  cases hk

mutual

/-- The type at the start of some tokens is determined by them, as is where it ends. -/
theorem Derives.eq_of_append_eq {ts us : Tokens} {x y : Tree} {r r' : List Token}
    (hx : Derives ts x) (hy : Derives us y) (h : items ts ++ r = items us ++ r') :
    items ts = items us ∧ r = r' ∧ x.type? = y.type? := by
  -- Both types start with the same keyword, which gives the second one the shape of the first.
  cases hx with
  | simple hw =>
    obtain ⟨hu, hy⟩ := hy.heads hw h.symm
    rw [hu] at h ⊢
    simp_all [Tree.type?]
  | decimal hw =>
    obtain ⟨o, p, s, rfl, hu⟩ := hy.heads hw h.symm
    rw [hu] at h ⊢
    simp_all [Tree.type?]
  | array hw hx =>
    obtain ⟨o, us', y, rfl, hy, hu⟩ := hy.heads hw h.symm
    rw [hu] at h ⊢
    simp only [items_cons, items_append, items_nil, List.cons_append, List.append_assoc,
      List.nil_append, List.cons.injEq, true_and] at h ⊢
    obtain ⟨hi, hr, ht⟩ := hx.eq_of_append_eq hy h
    simp_all [Tree.type?]
  | map hw hk hv =>
    obtain ⟨o, ks, vs, k, v, rfl, hk', hv', hu⟩ := hy.heads hw h.symm
    rw [hu] at h ⊢
    simp only [items_cons, items_append, items_nil, List.cons_append, List.append_assoc,
      List.nil_append, List.cons.injEq, true_and] at h ⊢
    obtain ⟨hki, hr, hkt⟩ := hk.eq_of_append_eq hk' h
    obtain ⟨-, hr⟩ := List.cons.inj hr
    obtain ⟨hvi, hr, hvt⟩ := hv.eq_of_append_eq hv' hr
    simp_all [Tree.type?]
  | emptyStruct hw =>
    obtain ⟨o, fs, rfl, ⟨rfl, hu⟩ | ⟨us', hf, hu⟩⟩ := hy.heads hw h.symm
    · rw [hu] at h ⊢
      simp_all [Tree.type?]
    · rw [hu] at h
      simp only [items_cons, items_nil, List.cons_append, List.append_assoc, List.nil_append,
        List.cons.injEq, true_and] at h
      exact absurd h.symm hf.append_ne_gt
  | struct hw hf =>
    obtain ⟨o, fs, rfl, ⟨rfl, hu⟩ | ⟨us', hf', hu⟩⟩ := hy.heads hw h.symm
    · rw [hu] at h
      simp only [items_cons, items_append, items_nil, List.cons_append, List.append_assoc,
        List.nil_append, List.cons.injEq, true_and] at h
      exact absurd h hf.append_ne_gt
    · rw [hu] at h ⊢
      simp only [items_cons, items_append, items_nil, List.cons_append, List.append_assoc,
        List.nil_append, List.cons.injEq, true_and] at h ⊢
      obtain ⟨hi, hr, ht⟩ := hf.eq_of_append_eq hf' h
      simp_all [Tree.type?]

theorem DerivesFields.eq_of_append_eq {ts us : Tokens} {fs gs : List FieldTree}
    {r r' : List Token} (hf : DerivesFields ts fs) (hg : DerivesFields us gs)
    (h : items ts ++ .gt :: r = items us ++ .gt :: r') :
    items ts = items us ∧ r = r' ∧ fieldTypes? fs = fieldTypes? gs := by
  cases hf with
  | one hk hx =>
    cases hg with
    | one hk' hy =>
      simp only [items_cons, List.cons_append, List.cons.injEq] at h
      obtain ⟨hi, hr, ht⟩ := hx.eq_of_append_eq hy h.2
      simp_all [fieldTypes?]
    | cons hk' hy hg =>
      simp only [items_cons, items_append, List.cons_append, List.append_assoc,
        List.cons.injEq] at h
      obtain ⟨-, hr, -⟩ := hx.eq_of_append_eq hy h.2
      cases hr
  | cons hk hx hf =>
    cases hg with
    | one hk' hy =>
      simp only [items_cons, items_append, List.cons_append, List.append_assoc,
        List.cons.injEq] at h
      obtain ⟨-, hr, -⟩ := hx.eq_of_append_eq hy h.2
      cases hr
    | cons hk' hy hg =>
      simp only [items_cons, items_append, List.cons_append, List.append_assoc,
        List.cons.injEq] at h
      obtain ⟨hi, hr, ht⟩ := hx.eq_of_append_eq hy h.2
      obtain ⟨-, hr⟩ := List.cons.inj hr
      obtain ⟨his, hr, hts⟩ := hf.eq_of_append_eq hg hr
      simp_all [fieldTypes?]

end

/-- The mark of a role ends where a comma or the end of the tokens follows. -/
theorem DerivesRole.eq_of_append_eq {ms ms' : Tokens} {role role' : Role} {r r' : List Token}
    (hm : DerivesRole ms role) (hm' : DerivesRole ms' role') (hr : ∀ k ∈ r.head?, k = .comma)
    (hr' : ∀ k ∈ r'.head?, k = .comma) (h : items ms ++ r = items ms' ++ r') :
    role = role' ∧ r = r' := by
  cases hm with
  | value =>
    cases hm' with
    | value => exact ⟨rfl, h⟩
    | key hw =>
      simp only [items_nil, items_cons, List.nil_append, List.cons_append] at h
      simp [h] at hr
  | key hw =>
    cases hm' with
    | value =>
      simp only [items_nil, items_cons, List.nil_append, List.cons_append] at h
      simp [← h] at hr'
    | key hw' => exact ⟨rfl, (List.cons.inj h).2⟩

theorem DerivesColumns.eq_of_items_eq {ts us : Tokens} {cs ds : List ColumnTree}
    (hc : DerivesColumns ts cs) (hd : DerivesColumns us ds) (h : items ts = items us) :
    columnTypes? cs = columnTypes? ds := by
  induction hc generalizing us ds with
  | @one _ _ _ _ ms _ _ hk hx hm =>
    cases hd with
    | @one _ _ _ _ ms' _ _ hk' hy hm' =>
      simp only [items_cons, items_append, List.cons.injEq] at h
      obtain ⟨-, hr, ht⟩ := hx.eq_of_append_eq hy h.2
      have hr : items ms ++ [] = items ms' ++ [] := by simpa using hr
      obtain ⟨hrole, -⟩ := hm.eq_of_append_eq hm' (by simp) (by simp) hr
      simp_all [columnTypes?]
    | @cons _ _ _ _ _ ms' us _ _ _ hk' hy hm' hd =>
      simp only [items_cons, items_append, List.cons.injEq] at h
      obtain ⟨-, hr, -⟩ := hx.eq_of_append_eq hy h.2
      have hr : items ms ++ [] = items ms' ++ .comma :: items us := by simpa using hr
      obtain ⟨-, hr⟩ := hm.eq_of_append_eq hm' (by simp) (by simp) hr
      cases hr
  | @cons _ _ _ _ _ ms us _ _ _ hk hx hm hc ih =>
    cases hd with
    | @one _ _ _ _ ms' _ _ hk' hy hm' =>
      simp only [items_cons, items_append, List.cons.injEq] at h
      obtain ⟨-, hr, -⟩ := hx.eq_of_append_eq hy h.2
      have hr : items ms ++ .comma :: items us = items ms' ++ [] := by simpa using hr
      obtain ⟨-, hr⟩ := hm.eq_of_append_eq hm' (by simp) (by simp) hr
      cases hr
    | cons hk' hy hm' hd =>
      simp only [items_cons, items_append, List.cons.injEq] at h
      obtain ⟨-, hr, ht⟩ := hx.eq_of_append_eq hy h.2
      obtain ⟨hrole, hr⟩ := hm.eq_of_append_eq hm' (by simp) (by simp) hr
      obtain ⟨-, hr⟩ := List.cons.inj hr
      have hts := ih hd hr
      simp_all [columnTypes?]

end SqlSchema.Syntax
