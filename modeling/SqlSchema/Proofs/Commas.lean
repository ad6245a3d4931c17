import SqlSchema.Proofs.Unambiguity

/-!
# Commas in types and column lists

A comma stands between two parts: something follows it that can start a part
(`Derives.follows_comma`), and a phrase without one of its commas is no phrase
(`Derives.not_derives_erase_comma`).
-/

namespace SqlSchema.Syntax

/-! ## Splitting tokens at a comma -/

theorem append_eq_append_cons {α : Type} {l r b a : List α} {k : α} (h : l ++ r = b ++ k :: a) :
    (∃ a', l = b ++ k :: a' ∧ a = a' ++ r) ∨ ∃ b', b = l ++ b' ∧ r = b' ++ k :: a := by
  rcases List.append_eq_append_iff.1 h with ⟨b', hb, hr⟩ | ⟨l', hl, ha⟩
  · exact Or.inr ⟨b', hb, hr⟩
  · cases l' with
    | nil =>
      refine Or.inr ⟨[], ?_, ?_⟩
      · simpa using hl.symm
      · simpa using ha.symm
    | cons k' l' =>
      obtain ⟨rfl, ha'⟩ := List.cons.inj ha
      exact Or.inl ⟨l', hl, ha'⟩

/-- Tokens without a comma stand wholly before each comma of the tokens behind them. -/
theorem split_of_no_comma {l r b a : List Token} (hl : .comma ∉ l)
    (h : l ++ r = b ++ .comma :: a) : ∃ b', b = l ++ b' ∧ r = b' ++ .comma :: a := by
  rcases append_eq_append_cons h with ⟨a', rfl, -⟩ | h
  · exact absurd (by simp) hl
  · exact h

theorem split_before_no_comma {l r b a : List Token} (hr : .comma ∉ r)
    (h : l ++ r = b ++ .comma :: a) : ∃ a', l = b ++ .comma :: a' ∧ a = a' ++ r := by
  rcases append_eq_append_cons h with h | ⟨b', -, rfl⟩
  · exact h
  · exact absurd (by simp) hr

/-- Each comma of tokens around a comma is that one, or one of the tokens before or behind it. -/
theorem split_around_comma {l r b a : List Token} (h : l ++ .comma :: r = b ++ .comma :: a) :
    (∃ a', l = b ++ .comma :: a' ∧ a = a' ++ .comma :: r) ∨ (b = l ∧ a = r) ∨
      ∃ b', b = l ++ .comma :: b' ∧ r = b' ++ .comma :: a := by
  rcases append_eq_append_cons h with h | ⟨b', rfl, hr⟩
  · exact Or.inl h
  · cases b' with
    | nil => exact Or.inr (Or.inl ⟨List.append_nil l, (List.cons.inj hr).2.symm⟩)
    | cons k b' =>
      rw [List.cons_append] at hr
      obtain ⟨rfl, hr'⟩ := List.cons.inj hr
      exact Or.inr (Or.inr ⟨b', rfl, hr'⟩)

theorem not_mem_of_name? {k : Token} {name : String} (hk : k.name? = some name) :
    .comma ∉ [k] := by
  rintro h
  obtain rfl := List.mem_singleton.1 h
  cases hk

/-! ## What follows a comma -/

/-- The tokens that can follow a comma: a name, the keyword of a type or a number. -/
inductive FollowsComma : Token → Prop
  | name {k : Token} {name : String} : k.name? = some name → FollowsComma k
  | number (n : UInt32) : FollowsComma (.number n)

theorem Derives.exists_head {ts : Tokens} {x : Tree} (hx : Derives ts x) :
    ∃ k us, items ts = k :: us ∧ FollowsComma k := by
  obtain ⟨w, kw, us, -, hts, -⟩ := hx.exists_heads
  exact ⟨_, us, hts, .name rfl⟩

mutual

/-- A comma in a type is followed by another part of it. -/
theorem Derives.follows_comma {ts : Tokens} {x : Tree} {b a : List Token} (hx : Derives ts x)
    (ht : items ts = b ++ .comma :: a) : ∃ k a', a = k :: a' ∧ FollowsComma k := by
  cases hx with
  | simple hw =>
    have h : Token.comma ∈ b ++ .comma :: a := by simp
    simp [← ht] at h
  | emptyStruct hw =>
    have h : Token.comma ∈ b ++ .comma :: a := by simp
    simp [← ht] at h
  | @decimal w o o₁ o₂ o₃ o₄ o₅ p s hw =>
    obtain ⟨b', rfl, hb⟩ := split_of_no_comma (l := [.ident w, .lparen, .number p]) (by simp) ht
    cases b' with
    | nil =>
      obtain ⟨-, rfl⟩ := List.cons.inj hb
      exact ⟨_, _, rfl, .number s⟩
    | cons k b' =>
      obtain ⟨b'', -, hb⟩ := split_of_no_comma (l := [.number s, .rparen]) (r := []) (by simp)
        (List.cons.inj hb).2
      simp at hb
  | @array w o o₁ o₂ ts x hw hx =>
    obtain ⟨b', rfl, hb⟩ := split_of_no_comma (l := [.ident w, .lt]) (r := items ts ++ [.gt])
      (by simp) (by simpa using ht)
    obtain ⟨a', hts, rfl⟩ := split_before_no_comma (by simp) hb
    obtain ⟨k, a'', rfl, hk⟩ := hx.follows_comma hts
    exact ⟨k, _, rfl, hk⟩
  | @map w o o₁ o₂ o₃ ks vs k v hw hk hv =>
    obtain ⟨b', rfl, hb⟩ := split_of_no_comma (l := [.ident w, .lt])
      (r := items ks ++ .comma :: (items vs ++ [.gt])) (by simp) (by simpa using ht)
    rcases split_around_comma hb with ⟨a', hks, rfl⟩ | ⟨rfl, rfl⟩ | ⟨b'', rfl, hrest⟩
    · obtain ⟨k, a'', rfl, hk⟩ := hk.follows_comma hks
      exact ⟨k, _, rfl, hk⟩
    · obtain ⟨k, vs', hvs, hk⟩ := hv.exists_head
      rw [hvs]
      exact ⟨k, _, rfl, hk⟩
    · obtain ⟨a', hvs, rfl⟩ := split_before_no_comma (by simp) hrest
      obtain ⟨k, a'', rfl, hk⟩ := hv.follows_comma hvs
      exact ⟨k, _, rfl, hk⟩
  | @struct w o o₁ o₂ ts fs hw hf =>
    obtain ⟨b', rfl, hb⟩ := split_of_no_comma (l := [.ident w, .lt]) (r := items ts ++ [.gt])
      (by simp) (by simpa using ht)
    obtain ⟨a', hts, rfl⟩ := split_before_no_comma (by simp) hb
    obtain ⟨k, a'', rfl, hk⟩ := hf.follows_comma hts
    exact ⟨k, _, rfl, hk⟩

theorem DerivesFields.follows_comma {ts : Tokens} {fs : List FieldTree} {b a : List Token}
    (hf : DerivesFields ts fs) (ht : items ts = b ++ .comma :: a) :
    ∃ k a', a = k :: a' ∧ FollowsComma k := by
  cases hf with
  | one hk hx =>
    obtain ⟨b', rfl, hb⟩ := split_of_no_comma (not_mem_of_name? hk) ht
    exact hx.follows_comma hb
  | @cons k name o o₁ ts vs x fs hk hx hf =>
    rw [items_cons, items_append, items_cons] at ht
    obtain ⟨b', rfl, hb⟩ := split_of_no_comma (not_mem_of_name? hk) ht
    rcases split_around_comma hb with ⟨a', hts, rfl⟩ | ⟨rfl, rfl⟩ | ⟨b'', rfl, hrest⟩
    · obtain ⟨k, a'', rfl, hk⟩ := hx.follows_comma hts
      exact ⟨k, _, rfl, hk⟩
    · obtain ⟨k, name, w, vs', hvs, hk⟩ := hf.exists_cons
      rw [hvs]
      exact ⟨k, _, rfl, .name hk⟩
    · exact hf.follows_comma hrest

end

/-! ## No comma is superfluous -/

mutual

/-- A type without one of its commas is no type, whatever follows it. -/
theorem Derives.not_derives_erase_comma {ts us : Tokens} {x y : Tree} {b a r r' : List Token}
    (hx : Derives ts x) (ht : items ts = b ++ .comma :: a) (hy : Derives us y)
    (hu : items us ++ r' = b ++ (a ++ r)) : False := by
  cases hx with
  | simple hw =>
    have h : Token.comma ∈ b ++ .comma :: a := by simp
    simp [← ht] at h
  | emptyStruct hw =>
    have h : Token.comma ∈ b ++ .comma :: a := by simp
    simp [← ht] at h
  | @decimal w o o₁ o₂ o₃ o₄ o₅ p s hw =>
    obtain ⟨b', rfl, hb⟩ := split_of_no_comma (l := [.ident w, .lparen, .number p]) (by simp) ht
    obtain ⟨-, p', s', -, hu'⟩ := hy.heads hw hu
    rw [hu'] at hu
    cases b' with
    | nil =>
      obtain ⟨-, rfl⟩ := List.cons.inj hb
      simp at hu
    | cons k b' =>
      obtain ⟨b'', -, hb⟩ := split_of_no_comma (l := [.number s, .rparen]) (r := []) (by simp)
        (List.cons.inj hb).2
      simp at hb
  | @array w o o₁ o₂ ts x hw hx =>
    obtain ⟨b', rfl, hb⟩ := split_of_no_comma (l := [.ident w, .lt]) (r := items ts ++ [.gt])
      (by simp) (by simpa using ht)
    obtain ⟨a', hts, rfl⟩ := split_before_no_comma (by simp) hb
    obtain ⟨-, us', y, -, hy, hu'⟩ := hy.heads hw hu
    simp only [hu', List.cons_append, List.append_assoc, List.nil_append, List.cons.injEq,
      true_and] at hu
    exact hx.not_derives_erase_comma hts hy hu
  | @map w o o₁ o₂ o₃ ks vs k v hw hk hv =>
    obtain ⟨b', rfl, hb⟩ := split_of_no_comma (l := [.ident w, .lt])
      (r := items ks ++ .comma :: (items vs ++ [.gt])) (by simp) (by simpa using ht)
    obtain ⟨-, ks', vs', k', v', -, hk', hv', hu'⟩ := hy.heads hw hu
    simp only [hu', List.cons_append, List.append_assoc, List.nil_append, List.cons.injEq,
      true_and] at hu
    rcases split_around_comma hb with ⟨a', hks, rfl⟩ | ⟨rfl, rfl⟩ | ⟨b'', rfl, hrest⟩
    · rw [List.append_assoc] at hu
      exact hk.not_derives_erase_comma hks hk' hu
    · -- Both phrases have the same key, so the second one has no comma behind it.
      obtain ⟨-, hr, -⟩ := hk'.eq_of_append_eq hk hu
      obtain ⟨w', kw, vs'', -, hvs, -⟩ := hv.exists_heads
      simp [hvs] at hr
    · rw [List.append_assoc, List.cons_append] at hu
      obtain ⟨-, hr, -⟩ := hk'.eq_of_append_eq hk hu
      obtain ⟨a', hvs, rfl⟩ := split_before_no_comma (by simp) hrest
      obtain ⟨-, hr⟩ := List.cons.inj hr
      rw [List.append_assoc] at hr
      exact hv.not_derives_erase_comma hvs hv' hr
  | @struct w o o₁ o₂ ts fs hw hf =>
    obtain ⟨b', rfl, hb⟩ := split_of_no_comma (l := [.ident w, .lt]) (r := items ts ++ [.gt])
      (by simp) (by simpa using ht)
    obtain ⟨a', hts, rfl⟩ := split_before_no_comma (by simp) hb
    obtain ⟨-, fs', -, ⟨-, hu'⟩ | ⟨us', hg, hu'⟩⟩ := hy.heads hw hu
    · simp only [hu', List.cons_append, List.append_assoc, List.nil_append, List.cons.injEq,
        true_and] at hu
      -- The fields start with a name and neither with the comma nor with a closing bracket.
      obtain ⟨k, name, w', ts', hts', hk⟩ := hf.exists_cons
      cases b' with
      | nil =>
        rw [hts'] at hts
        rw [(List.cons.inj hts).1] at hk
        cases hk
      | cons k' b' =>
        rw [hts'] at hts
        rw [(List.cons.inj hts).1, ← (List.cons.inj hu).1] at hk
        cases hk
    · simp only [hu', List.cons_append, List.append_assoc, List.nil_append, List.cons.injEq,
        true_and] at hu
      exact hf.not_derives_erase_comma hts hg hu

theorem DerivesFields.not_derives_erase_comma {ts us : Tokens} {fs gs : List FieldTree}
    {b a r r' : List Token} (hf : DerivesFields ts fs) (ht : items ts = b ++ .comma :: a)
    (hg : DerivesFields us gs) (hu : items us ++ .gt :: r' = b ++ (a ++ .gt :: r)) : False := by
  obtain ⟨k', us', y, tail, hy, hus, htail⟩ := hg.exists_type
  rw [hus] at hu
  cases hf with
  | one hk hx =>
    obtain ⟨b', rfl, hb⟩ := split_of_no_comma (not_mem_of_name? hk) ht
    simp only [List.cons_append, List.append_assoc, List.nil_append, List.cons.injEq] at hu
    exact hx.not_derives_erase_comma hb hy hu.2
  | @cons k name o o₁ ts vs x fs hk hx hf =>
    rw [items_cons, items_append, items_cons] at ht
    obtain ⟨b', rfl, hb⟩ := split_of_no_comma (not_mem_of_name? hk) ht
    simp only [List.cons_append, List.append_assoc, List.nil_append, List.cons.injEq] at hu
    rcases split_around_comma hb with ⟨a', hts, rfl⟩ | ⟨rfl, rfl⟩ | ⟨b'', rfl, hvs⟩
    · simp only [List.append_assoc] at hu
      exact hx.not_derives_erase_comma hts hy hu.2
    · obtain ⟨-, hr, -⟩ := hy.eq_of_append_eq hx hu.2
      obtain ⟨k'', name', w, vs', hvs, hk''⟩ := hf.exists_cons
      rcases htail with rfl | ⟨us'', gs', rfl, -⟩ <;>
        simp only [hvs, List.cons_append, List.nil_append, List.cons.injEq] at hr <;>
        rw [← hr.1] at hk'' <;> cases hk''
    · simp only [List.append_assoc, List.cons_append] at hu
      obtain ⟨-, hr, -⟩ := hy.eq_of_append_eq hx hu.2
      rcases htail with rfl | ⟨us'', gs', rfl, hg⟩
      · cases hr
      · exact hf.not_derives_erase_comma hvs hg (List.cons.inj hr).2

end

/-! ## Column lists -/

theorem DerivesRole.not_mem {ms : Tokens} {role : Role} (h : DerivesRole ms role) :
    .comma ∉ items ms := by
  cases h <;> simp

theorem DerivesColumns.exists_type {ts : Tokens} {cs : List ColumnTree}
    (h : DerivesColumns ts cs) :
    ∃ k name us x ms role tail, k.name? = some name ∧ Derives us x ∧ DerivesRole ms role ∧
      items ts = k :: (items us ++ (items ms ++ tail)) ∧
      (tail = [] ∨ ∃ vs ds, tail = .comma :: items vs ∧ DerivesColumns vs ds) := by
  cases h with
  | @one k _ _ _ _ _ _ hk hx hm => exact ⟨k, _, _, _, _, _, [], hk, hx, hm, by simp, Or.inl rfl⟩
  | @cons k _ _ _ _ _ _ _ _ _ hk hx hm hc =>
    exact ⟨k, _, _, _, _, _, _, hk, hx, hm, by simp, Or.inr ⟨_, _, rfl, hc⟩⟩

theorem DerivesColumns.follows_comma {ts : Tokens} {cs : List ColumnTree} {b a : List Token}
    (hc : DerivesColumns ts cs) (ht : items ts = b ++ .comma :: a) :
    ∃ k a', a = k :: a' ∧ FollowsComma k := by
  induction hc generalizing b with
  | one hk hx hm =>
    rw [items_cons, items_append] at ht
    obtain ⟨b', rfl, hb⟩ := split_of_no_comma (not_mem_of_name? hk) ht
    obtain ⟨a', hts, rfl⟩ := split_before_no_comma hm.not_mem hb
    obtain ⟨k, a'', rfl, hk⟩ := hx.follows_comma hts
    exact ⟨k, _, rfl, hk⟩
  | @cons k name o o₁ ts ms vs x role cs hk hx hm hc ih =>
    simp only [items_cons, items_append] at ht
    obtain ⟨b', rfl, hb⟩ := split_of_no_comma (l := [k])
      (r := items ts ++ (items ms ++ .comma :: items vs)) (not_mem_of_name? hk) ht
    rw [← List.append_assoc] at hb
    rcases split_around_comma hb with ⟨a', htm, rfl⟩ | ⟨rfl, rfl⟩ | ⟨b'', rfl, hvs⟩
    · obtain ⟨a'', hts, rfl⟩ := split_before_no_comma hm.not_mem htm
      obtain ⟨k, a₃, rfl, hk⟩ := hx.follows_comma hts
      exact ⟨k, _, rfl, hk⟩
    · obtain ⟨k₂, name₂, us₂, x₂, ms₂, role₂, tail₂, hk₂, -, -, hvs, -⟩ := hc.exists_type
      rw [hvs]
      exact ⟨k₂, _, rfl, .name hk₂⟩
    · exact ih hvs

theorem DerivesColumns.not_derives_erase_comma {ts us : Tokens} {cs ds : List ColumnTree}
    {b a : List Token} (hc : DerivesColumns ts cs) (ht : items ts = b ++ .comma :: a)
    (hd : DerivesColumns us ds) (hu : items us = b ++ a) : False := by
  induction hc generalizing us ds b with
  | one hk hx hm =>
    obtain ⟨k', name', us', y, ms', role', tail, -, hy, hm', hus, htail⟩ := hd.exists_type
    rw [hus] at hu
    rw [items_cons, items_append] at ht
    obtain ⟨b', rfl, hb⟩ := split_of_no_comma (not_mem_of_name? hk) ht
    obtain ⟨a', hts, rfl⟩ := split_before_no_comma hm.not_mem hb
    simp only [List.cons_append, List.nil_append, List.cons.injEq] at hu
    exact hx.not_derives_erase_comma hts hy hu.2
  | @cons k name o o₁ ts ms vs x role cs hk hx hm hc ih =>
    obtain ⟨k', name', us', y, ms', role', tail, -, hy, hm', hus, htail⟩ := hd.exists_type
    rw [hus] at hu
    simp only [items_cons, items_append] at ht
    obtain ⟨b', rfl, hb⟩ := split_of_no_comma (l := [k])
      (r := items ts ++ (items ms ++ .comma :: items vs)) (not_mem_of_name? hk) ht
    simp only [List.cons_append, List.nil_append, List.cons.injEq] at hu
    rw [← List.append_assoc] at hb
    rcases split_around_comma hb with ⟨a', htm, rfl⟩ | ⟨rfl, rfl⟩ | ⟨b'', rfl, hvs⟩
    · obtain ⟨a'', hts, rfl⟩ := split_before_no_comma hm.not_mem htm
      simp only [List.append_assoc] at hu
      exact hx.not_derives_erase_comma hts hy hu.2
    · obtain ⟨k₂, name₂, us₂, x₂, ms₂, role₂, tail₂, hk₂, hx₂, -, hvs₂, -⟩ := hc.exists_type
      obtain ⟨w, kw, us₃, -, hus₂, -⟩ := hx₂.exists_heads
      simp only [List.append_assoc] at hu
      obtain ⟨-, hr, -⟩ := hy.eq_of_append_eq hx hu.2
      have hne : Token.comma ≠ k₂ := by
        rintro rfl
        cases hk₂
      rw [hvs₂, hus₂] at hr
      cases hm <;> cases hm' <;> rcases htail with rfl | ⟨vs', ds', rfl, -⟩ <;>
        simp [hne] at hr
    · simp only [List.append_assoc, List.cons_append] at hu
      obtain ⟨-, hr, -⟩ := hy.eq_of_append_eq hx hu.2
      have htail' : ∀ k ∈ tail.head?, k = .comma := by
        rcases htail with rfl | ⟨vs', ds', rfl, -⟩ <;> simp
      obtain ⟨-, hr⟩ := hm'.eq_of_append_eq hm htail' (by simp) hr
      rcases htail with rfl | ⟨vs', ds', rfl, hd⟩
      · cases hr
      · exact ih hvs hd (List.cons.inj hr).2

/-- A column list goes on behind another one only with a comma or the mark of a key. -/
theorem DerivesColumns.continues {ts us : Tokens} {cs ds : List ColumnTree} {k : Token}
    {extra : List Token} (hc : DerivesColumns ts cs) (hd : DerivesColumns us ds)
    (h : items us = items ts ++ k :: extra) :
    k = .comma ∨ ∃ w, k = .ident w ∧ SameButCase w "KEY" := by
  induction hc generalizing us ds with
  | one hk hx hm =>
    obtain ⟨k', name', us', y, ms', role', tail, -, hy, hm', hus, htail⟩ := hd.exists_type
    rw [hus] at h
    simp only [items_cons, items_append, List.cons_append, List.append_assoc,
      List.cons.injEq] at h
    obtain ⟨-, hr, -⟩ := hy.eq_of_append_eq hx h.2
    cases hm' with
    | value =>
      cases hm <;> rcases htail with rfl | ⟨vs', ds', rfl, -⟩ <;> simp at hr
      exact Or.inl hr.1.symm
    | key hw =>
      cases hm with
      | value => exact Or.inr ⟨_, (List.cons.inj hr).1.symm, hw⟩
      | key =>
        rcases htail with rfl | ⟨vs', ds', rfl, -⟩ <;> simp at hr
        exact Or.inl hr.2.1.symm
  | cons hk hx hm hc ih =>
    obtain ⟨k', name', us', y, ms', role', tail, -, hy, hm', hus, htail⟩ := hd.exists_type
    rw [hus] at h
    simp only [items_cons, items_append, List.cons_append, List.append_assoc,
      List.cons.injEq] at h
    obtain ⟨-, hr, -⟩ := hy.eq_of_append_eq hx h.2
    have htail' : ∀ k ∈ tail.head?, k = .comma := by
      rcases htail with rfl | ⟨vs', ds', rfl, -⟩ <;> simp
    obtain ⟨-, hr⟩ := hm'.eq_of_append_eq hm htail' (by simp) hr
    rcases htail with rfl | ⟨vs', ds', rfl, hd⟩
    · cases hr
    · exact ih hd (List.cons.inj hr).2

end SqlSchema.Syntax
