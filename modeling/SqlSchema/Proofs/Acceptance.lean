import SqlSchema.Proofs.ColumnPlaces
import SqlSchema.Proofs.Commas
import SqlSchema.Proofs.Pieces

/-!
# What the readers accept

A text is read as a type or as a schema exactly if its tokens are derived in the grammar, with
possible decimals, distinct field names and no type that is nested too deep
(`reading_iff_grammar`).
-/

namespace SqlSchema.Syntax

open Log

/-- The tokens are this type: they are derived in the grammar with a tree that stands for it, and it
is nested at most 256 levels deep. -/
def TypeOf (ts : Tokens) (t : DataType) : Prop :=
  ∃ x, Derives ts x ∧ x.type? = some t ∧ t.nesting ≤ 256

def ColumnsOf (ts : Tokens) (cs : List (Role × Field)) : Prop :=
  ∃ trees, DerivesSchema ts trees ∧ columnTypes? trees = some cs ∧
    ∀ c ∈ cs, c.2.type.nesting ≤ 256

/-- Phrases that have one meaning each and whose commas separate. -/
structure Separated {α : Type} (Phrase : Tokens → α → Prop) : Prop where
  /-- The same tokens, wherever they stand, do not have two meanings. -/
  unique : ∀ {ts us : Tokens} {a b : α}, items ts = items us → Phrase ts a → Phrase us b → a = b
  /-- Behind each comma another part starts, so no comma is a trailing one. -/
  followed : ∀ {ts : Tokens} {a : α} {before behind : List Token}, Phrase ts a →
    items ts = before ++ .comma :: behind → ∃ k rest, behind = k :: rest ∧ FollowsComma k
  /-- Without one of its commas a phrase is no phrase. -/
  needed : ∀ {ts us : Tokens} {a b : α} {before behind : List Token}, Phrase ts a →
    items ts = before ++ .comma :: behind → items us = before ++ behind → ¬ Phrase us b

/-! ## Types -/

theorem readType_eq_ok_iff {s : String} {t : DataType} :
    (readType s).outcome = .ok t ↔ ∃ l, tokenize s = .ok l ∧ TypeOf l.tokens t := by
  rw [readType_outcome, bind_eq_ok_iff]
  constructor
  · rintro ⟨l, hl, h⟩
    obtain ⟨x, hx⟩ := exists_derives_of_readAll h
    rw [hx.readAll_eq, x.resolve_eq_ok_iff, Nat.zero_add] at h
    refine ⟨l, mapError_eq_ok_iff.1 hl, x, hx, h.1, ?_⟩
    rw [(hx.nesting_eq h.1).1]
    exact h.2
  · rintro ⟨l, hl, x, hx, ht, hn⟩
    refine ⟨l, mapError_eq_ok_iff.2 hl, ?_⟩
    rw [hx.readAll_eq, x.resolve_eq_ok_iff, Nat.zero_add]
    rw [(hx.nesting_eq ht).1] at hn
    exact ⟨ht, hn⟩

theorem separated_typeOf : Separated TypeOf where
  unique := by
    rintro ts us t u h ⟨x, hx, ht, -⟩ ⟨y, hy, hu, -⟩
    have h' : items ts ++ [] = items us ++ [] := by rw [h]
    obtain ⟨-, -, hxy⟩ := hx.eq_of_append_eq hy h'
    rw [ht, hu] at hxy
    exact Option.some.inj hxy
  followed := by
    rintro ts t before behind ⟨x, hx, -⟩ h
    exact hx.follows_comma h
  needed := by
    rintro ts us t u before behind ⟨x, hx, -⟩ h hu ⟨y, hy, -⟩
    have hu' : items us ++ [] = before ++ (behind ++ []) := by simpa using hu
    exact hx.not_derives_erase_comma h hy hu'

theorem TypeOf.not_continues {ts us : Tokens} {t u : DataType} {k : Token} {extra : List Token}
    (ht : TypeOf ts t) (h : items us = items ts ++ k :: extra) : ¬ TypeOf us u := by
  rintro ⟨y, hy, -⟩
  obtain ⟨x, hx, -⟩ := ht
  have h' : items ts ++ k :: extra = items us ++ [] := by simpa using h.symm
  obtain ⟨-, hr, -⟩ := hx.eq_of_append_eq hy h'
  cases hr

/-! ## Schemas -/

theorem DerivesColumns.items_ne_nil {ts : Tokens} {trees : List ColumnTree}
    (hc : DerivesColumns ts trees) : items ts ≠ [] := by
  obtain ⟨k, name, us, x, ms, role, tail, -, -, -, h, -⟩ := hc.exists_type
  simp [h]

/-- A column list has one meaning, also if it may be empty. -/
theorem DerivesSchema.eq_of_items_eq {ts us : Tokens} {xs ys : List ColumnTree}
    (hx : DerivesSchema ts xs) (hy : DerivesSchema us ys) (h : items ts = items us) :
    columnTypes? xs = columnTypes? ys := by
  cases hx with
  | empty =>
    cases hy with
    | empty => rfl
    | columns hy => exact absurd h.symm hy.items_ne_nil
  | columns hx =>
    cases hy with
    | empty => exact absurd h hx.items_ne_nil
    | columns hy => exact hx.eq_of_items_eq hy h

theorem DerivesSchema.nesting_iff {ts : Tokens} {trees : List ColumnTree}
    {cs : List (Role × Field)} (hc : DerivesSchema ts trees) (hcs : columnTypes? trees = some cs) :
    (∀ c ∈ trees, c.type.nesting ≤ nestingLimit) ↔ ∀ c ∈ cs, c.2.type.nesting ≤ nestingLimit := by
  cases hc with
  | empty =>
    obtain rfl := Option.some.inj hcs
    simp
  | columns hc => exact hc.nesting_iff hcs

theorem readSchema_eq_ok_iff {s : String} {schema : Schema} :
    (readSchema s).outcome = .ok schema ↔
      ∃ l cs, tokenize s = .ok l ∧ ColumnsOf l.tokens cs ∧ schema = .ofRoles cs := by
  rw [readSchema_outcome, bind_eq_ok_iff]
  constructor
  · rintro ⟨l, hl, h⟩
    obtain ⟨trees, hc⟩ := exists_derivesSchema_of_readAll h
    rw [hc.readAll_eq] at h
    obtain ⟨cs, hcs, hn, hs⟩ := resolveColumns_eq_ok_iff.1 h
    rw [Schema.addAll_empty] at hs
    exact ⟨l, cs, mapError_eq_ok_iff.1 hl, ⟨trees, hc, hcs, (hc.nesting_iff hcs).1 hn⟩, hs⟩
  · rintro ⟨l, cs, hl, ⟨trees, hc, hcs, hn⟩, hs⟩
    refine ⟨l, mapError_eq_ok_iff.2 hl, ?_⟩
    rw [hc.readAll_eq]
    rw [← Schema.addAll_empty] at hs
    exact resolveColumns_eq_ok_iff.2 ⟨cs, hcs, (hc.nesting_iff hcs).2 hn, hs⟩

theorem separated_columnsOf : Separated ColumnsOf where
  unique := by
    rintro ts us cs ds h ⟨xs, hx, hcs, -⟩ ⟨ys, hy, hds, -⟩
    rw [hx.eq_of_items_eq hy h, hds] at hcs
    exact (Option.some.inj hcs).symm
  followed := by
    rintro ts cs before behind ⟨xs, hx, -⟩ h
    cases hx with
    | empty => simp at h
    | columns hx => exact hx.follows_comma h
  needed := by
    rintro ts us cs ds before behind ⟨xs, hx, -⟩ h hu ⟨ys, hy, -⟩
    cases hx with
    | empty => simp at h
    | columns hx =>
      cases hy with
      | empty =>
        obtain ⟨rfl, rfl⟩ := List.append_eq_nil_iff.1 hu.symm
        obtain ⟨k, rest, hk, -⟩ := hx.follows_comma h
        cases hk
      | columns hy => exact hx.not_derives_erase_comma h hy hu

/-- A column goes on behind a column list only with a comma or the mark of a key. -/
theorem ColumnsOf.continues {ts us : Tokens} {cs ds : List (Role × Field)} {k : Token}
    {extra : List Token} (hc : ColumnsOf ts cs) (hne : cs ≠ []) (hd : ColumnsOf us ds)
    (h : items us = items ts ++ k :: extra) :
    k = .comma ∨ ∃ w, k = .ident w ∧ SameButCase w "KEY" := by
  obtain ⟨xs, hx, hcs, -⟩ := hc
  obtain ⟨ys, hy, -⟩ := hd
  cases hx with
  | empty => exact absurd (Option.some.inj hcs).symm hne
  | columns hx =>
    cases hy with
    | empty => simp at h
    | columns hy => exact hx.continues hy h

/-- The readers accept exactly the grammar. The phrases of the grammar have one meaning each, no
comma in them is a trailing or a superfluous one, and no token follows them but a comma or `KEY`
behind a column. -/
theorem reading_iff_grammar :
    (∀ s t, (readType s).outcome = .ok t ↔ ∃ l, tokenize s = .ok l ∧ TypeOf l.tokens t) ∧
    (∀ s schema, (readSchema s).outcome = .ok schema ↔
      ∃ l cs, tokenize s = .ok l ∧ ColumnsOf l.tokens cs ∧ schema = .ofRoles cs) ∧
    Separated TypeOf ∧ Separated ColumnsOf ∧
    (∀ ts us t u k extra, TypeOf ts t → items us = items ts ++ k :: extra → ¬ TypeOf us u) ∧
    (∀ ts us cs ds k extra, ColumnsOf ts cs → cs ≠ [] → ColumnsOf us ds →
      items us = items ts ++ k :: extra →
      k = .comma ∨ ∃ w, k = .ident w ∧ SameButCase w "KEY") := by
  refine ⟨fun s t => readType_eq_ok_iff, fun s schema => readSchema_eq_ok_iff, separated_typeOf,
    separated_columnsOf, ?_, ?_⟩
  · intro ts us t u k extra ht h
    exact ht.not_continues h
  · intro ts us cs ds k extra hc hne hd h
    exact hc.continues hne hd h

/-- Keywords in lower case and in mixed case, the other words for INTEGER and STRING, and a key column
that is named like its mark. -/
theorem reading_iff_grammar_spellings :
    (readType "map<Int, varChar>").outcome = .ok (.map .integer .string) ∧
      (readSchema "key integer kEy").outcome = .ok ⟨[⟨"key", .integer⟩], []⟩ := by
  have htype : tokenize "map<Int, varChar>" = .ok ⟨[⟨.ident "map", 0⟩, ⟨.lt, 3⟩, ⟨.ident "Int", 4⟩,
      ⟨.comma, 7⟩, ⟨.ident "varChar", 9⟩, ⟨.gt, 16⟩], 17⟩ :=
    tokenize_eq_of_tokensBelow 7 (by decide +kernel)
  have hschema : tokenize "key integer kEy" = .ok ⟨[⟨.ident "key", 0⟩, ⟨.ident "integer", 4⟩,
      ⟨.ident "kEy", 12⟩], 15⟩ := tokenize_eq_of_tokensBelow 4 (by decide +kernel)
  obtain ⟨hreadType, hreadSchema, -⟩ := reading_iff_grammar
  have hkey : Derives [⟨.ident "Int", 4⟩] (.simple 4 .integer) := .simple ⟨_, .int, by decide⟩
  have hvalue : Derives [⟨.ident "varChar", 9⟩] (.simple 9 .string) :=
    .simple ⟨_, .varchar, by decide⟩
  have hinteger : Derives [⟨.ident "integer", 4⟩] (.simple 4 .integer) :=
    .simple ⟨_, .integer, by decide⟩
  constructor
  · refine (hreadType _ _).2 ⟨_, htype, _, .map ⟨_, .map, by decide⟩ hkey hvalue, rfl, by decide⟩
  · refine (hreadSchema _ _).2 ⟨_, [(.key, ⟨"key", .integer⟩)], hschema, ⟨_, .columns (.one rfl
      hinteger (.key (by decide))), rfl, by decide⟩, rfl⟩

end SqlSchema.Syntax
