import SqlSchema.Proofs.Acceptance
import SqlSchema.Proofs.Numbering
import SqlSchema.Proofs.Pieces
import SqlSchema.Proofs.Sentences

/-!
# Column lists behind one another

Two texts with a comma between them are read as the columns of the first text and then those of the
second. No token of one text runs into the other, since the comma stands between them, and a column
list behind a comma is a column list as it would be alone. Only a text without columns has no place
beside a comma (`readSchema_append_comma`).
-/

namespace SqlSchema

namespace Schema

theorem ofRoles_append (cs ds : List (Role × Field)) :
    ofRoles (cs ++ ds) = ⟨(ofRoles cs).keys ++ (ofRoles ds).keys,
      (ofRoles cs).values ++ (ofRoles ds).values⟩ := by
  simp [ofRoles, fieldsOf]

/-- A schema is empty exactly if it comes from no columns: each column has one of the two roles. -/
theorem columns_ofRoles_eq_nil_iff {cs : List (Role × Field)} :
    (ofRoles cs).columns = [] ↔ cs = [] := by
  constructor
  · intro h
    cases cs with
    | nil => rfl
    | cons c cs =>
      obtain ⟨role, f⟩ := c
      cases role <;> simp [ofRoles, fieldsOf, columns, keyColumns, valueColumns, columnsFrom] at h
  · rintro rfl
    rfl

theorem keyColumns_append (left right : Schema) (values : List Field) :
    (⟨left.keys ++ right.keys, values⟩ : Schema).keyColumns =
      renumbered .key (left.keyColumns ++ right.keyColumns) := by
  rw [← columnsFrom_map_field_eq_renumbered, List.map_append, map_field_keyColumns,
    map_field_keyColumns]
  rfl

theorem valueColumns_append (left right : Schema) (keys : List Field) :
    (⟨keys, left.values ++ right.values⟩ : Schema).valueColumns =
      renumbered .value (left.valueColumns ++ right.valueColumns) := by
  rw [← columnsFrom_map_field_eq_renumbered, List.map_append, map_field_valueColumns,
    map_field_valueColumns]
  rfl

end Schema

namespace Syntax

open Text

/-! ## The tokens of two texts -/

theorem items_rowTokens (n : Nat) (ps : List Piece) :
    items (rowTokens n ps) = ps.map Piece.token := by
  induction ps generalizing n with
  | nil => rfl
  | cons p ps ih => rw [rowTokens, items_cons, ih, List.map_cons]

/-- Two texts with a comma between them have the tokens of both and the comma. The blanks at the end
of the first text become those before the comma. -/
theorem exists_tokenize_append_comma {a b : String} {l m : TokenList} (hl : tokenize a = .ok l)
    (hm : tokenize b = .ok m) :
    ∃ both, tokenize (a ++ "," ++ b) = .ok both ∧
      items both.tokens = items l.tokens ++ .comma :: items m.tokens := by
  obtain ⟨ps, tail, ha, htail, hps, hlt, -⟩ := exists_row_of_tokenize hl
  obtain ⟨qs, tail', hb, htail', hqs, hmt, -⟩ := exists_row_of_tokenize hm
  let comma : Piece := ⟨tail, .comma, [','], htail, .comma⟩
  have hbefore : ∀ p : Piece, p.Before comma := by
    intro p h
    cases hp : p.token <;> simp [comma, hp, Token.runsInto] at h
  have hrest : (comma :: qs).IsChain Piece.Before := by
    refine List.isChain_cons.2 ⟨?_, hqs⟩
    intro q _ h
    simp [comma, Token.runsInto] at h
  have hchain : (ps ++ comma :: qs).IsChain Piece.Before := by
    refine List.isChain_append.2 ⟨hps, hrest, ?_⟩
    intro p _ q hq
    obtain rfl := Option.some.inj hq
    exact hbefore p
  have htext : (a ++ "," ++ b).toList = rowChars (ps ++ comma :: qs) ++ tail' := by
    simp [ha, hb, rowChars, Piece.chars, comma]
  refine ⟨⟨rowTokens 0 (ps ++ comma :: qs), (a ++ "," ++ b).utf8ByteSize⟩,
    tokenize_eq_ok_iff.2 ⟨_, tail', htext, htail', hchain, rfl, rfl⟩, ?_⟩
  rw [hlt, hmt, items_rowTokens, items_rowTokens, items_rowTokens, List.map_append, List.map_cons]

/-! ## Two column lists -/

theorem columnTypes?_append {xs ys : List ColumnTree} {cs ds : List (Role × Field)}
    (hx : columnTypes? xs = some cs) (hy : columnTypes? ys = some ds) :
    columnTypes? (xs ++ ys) = some (cs ++ ds) := by
  induction xs generalizing cs with
  | nil =>
    obtain rfl := Option.some.inj hx
    exact hy
  | cons x xs ih =>
    obtain ⟨t, ht, es, hes, rfl⟩ := columnTypes?_cons_eq_some_iff.1 hx
    exact columnTypes?_cons_eq_some_iff.2 ⟨t, ht, _, ih hes, rfl⟩

namespace ColumnsOf

variable {ts us : Tokens} {cs ds : List (Role × Field)}

theorem of_items_eq (hc : ColumnsOf ts cs) (h : items us = items ts) : ColumnsOf us cs := by
  obtain ⟨xs, hx, hcs, hn⟩ := hc
  cases hx with
  | empty =>
    obtain rfl := items_eq_nil_iff.1 h
    exact ⟨[], .empty, hcs, hn⟩
  | columns hx =>
    obtain ⟨ys, hy⟩ := hx.exists_of_items_eq h
    exact ⟨ys, .columns hy, by rw [hy.eq_of_items_eq hx h, hcs], hn⟩

theorem exists_derivesColumns (hc : ColumnsOf ts cs) (hne : cs ≠ []) :
    ∃ xs, DerivesColumns ts xs ∧ columnTypes? xs = some cs := by
  obtain ⟨xs, hx, hcs, -⟩ := hc
  cases hx with
  | empty => exact absurd (Option.some.inj hcs).symm hne
  | columns hx => exact ⟨xs, hx, hcs⟩

theorem append_comma (hc : ColumnsOf ts cs) (hd : ColumnsOf us ds) (hcs : cs ≠ []) (hds : ds ≠ [])
    (o : Nat) : ColumnsOf (ts ++ ⟨.comma, o⟩ :: us) (cs ++ ds) := by
  obtain ⟨xs, hx, hxs⟩ := hc.exists_derivesColumns hcs
  obtain ⟨ys, hy, hys⟩ := hd.exists_derivesColumns hds
  obtain ⟨-, -, -, hcn⟩ := hc
  obtain ⟨-, -, -, hdn⟩ := hd
  refine ⟨xs ++ ys, .columns (hx.append_comma hy o), columnTypes?_append hxs hys, ?_⟩
  exact List.forall_mem_append.2 ⟨hcn, hdn⟩

theorem items_eq_nil (hc : ColumnsOf ts []) : items ts = [] := by
  obtain ⟨xs, hx, hcs, -⟩ := hc
  cases hx with
  | empty => rfl
  | columns hx =>
    cases hx <;>
    · obtain ⟨t, -, fs, -, h⟩ := columnTypes?_cons_eq_some_iff.1 hcs
      cases h

theorem items_ne_comma_cons {ks : List Token} (hc : ColumnsOf ts cs) :
    items ts ≠ .comma :: ks := by
  obtain ⟨xs, hx, -⟩ := hc
  cases hx with
  | empty => simp
  | columns hx =>
    obtain ⟨k, name, us, x, ms, role, tail, hk, -, -, hts, -⟩ := hx.exists_type
    rw [hts]
    intro h
    rw [(List.cons.inj h).1] at hk
    cases hk

theorem items_ne_snoc_comma {ks : List Token} (hc : ColumnsOf ts cs) :
    items ts ≠ ks ++ [.comma] := by
  intro h
  obtain ⟨k, rest, hrest, -⟩ := separated_columnsOf.followed hc h
  cases hrest

end ColumnsOf

/-! ## Two schemas -/

/-- Two texts that are read as schemas, with a comma between them, are read as a schema exactly if
each has a column. This schema has the key columns of the first and then those of the second, and
likewise the value columns, all under their names and types and numbered anew. -/
theorem readSchema_append_comma {a b : String} {s t : Schema} (ha : (readSchema a).outcome = .ok s)
    (hb : (readSchema b).outcome = .ok t) :
    ((∃ both, (readSchema (a ++ "," ++ b)).outcome = .ok both) ↔
      s.columns ≠ [] ∧ t.columns ≠ []) ∧
    (∀ both, (readSchema (a ++ "," ++ b)).outcome = .ok both →
      both.keyColumns = renumbered .key (s.keyColumns ++ t.keyColumns) ∧
      both.valueColumns = renumbered .value (s.valueColumns ++ t.valueColumns)) := by
  obtain ⟨l, cs, hl, hc, rfl⟩ := readSchema_eq_ok_iff.1 ha
  obtain ⟨m, ds, hm, hd, rfl⟩ := readSchema_eq_ok_iff.1 hb
  obtain ⟨n, hn, hitems⟩ := exists_tokenize_append_comma hl hm
  have hnonempty {fs : List (Role × Field)} (hf : ColumnsOf n.tokens fs) : cs ≠ [] ∧ ds ≠ [] := by
    constructor
    · rintro rfl
      rw [hc.items_eq_nil] at hitems
      exact hf.items_ne_comma_cons hitems
    · rintro rfl
      rw [hd.items_eq_nil] at hitems
      exact hf.items_ne_snoc_comma hitems
  have happend (hcs : cs ≠ []) (hds : ds ≠ []) : ColumnsOf n.tokens (cs ++ ds) :=
    (hc.append_comma hd hcs hds 0).of_items_eq (by simpa using hitems)
  simp only [readSchema_eq_ok_iff, hn, Except.ok.injEq]
  constructor
  · rw [ne_eq, ne_eq, Schema.columns_ofRoles_eq_nil_iff, Schema.columns_ofRoles_eq_nil_iff]
    constructor
    · rintro ⟨both, _, fs, rfl, hf, -⟩
      exact hnonempty hf
    · rintro ⟨hcs, hds⟩
      exact ⟨_, n, cs ++ ds, rfl, happend hcs hds, rfl⟩
  · rintro both ⟨_, fs, rfl, hf, rfl⟩
    obtain ⟨hcs, hds⟩ := hnonempty hf
    obtain rfl := separated_columnsOf.unique rfl hf (happend hcs hds)
    rw [Schema.ofRoles_append]
    exact ⟨Schema.keyColumns_append _ _ _, Schema.valueColumns_append _ _ _⟩

/-- The first text ends with a key column and a blank, and the name of its value column has a comma
in it. The second text starts with another key column of the same name. -/
theorem readSchema_append_comma_keys :
    let a := " `x,``y`\tINT , k STRING\nkey "
    let b := "k DOUBLE KEY,\nv ARRAY<BIGINT>"
    (readSchema a).outcome = .ok ⟨[⟨"k", .string⟩], [⟨"x,`y", .integer⟩]⟩ ∧
      (readSchema b).outcome = .ok ⟨[⟨"k", .double⟩], [⟨"v", .array .bigint⟩]⟩ ∧
      ∃ both, (readSchema (a ++ "," ++ b)).outcome = .ok both ∧
        both.keyColumns = [⟨⟨"k", .string⟩, .key, 0⟩, ⟨⟨"k", .double⟩, .key, 1⟩] ∧
        both.valueColumns = [⟨⟨"x,`y", .integer⟩, .value, 0⟩, ⟨⟨"v", .array .bigint⟩, .value, 1⟩] := by
  intro a b
  have hta : tokenize a = .ok ⟨[⟨.quoted "x,`y", 1⟩, ⟨.ident "INT", 9⟩, ⟨.comma, 13⟩,
      ⟨.ident "k", 15⟩, ⟨.ident "STRING", 17⟩, ⟨.ident "key", 24⟩], 28⟩ :=
    tokenize_eq_of_tokensBelow 7 (by decide +kernel)
  have htb : tokenize b = .ok ⟨[⟨.ident "k", 0⟩, ⟨.ident "DOUBLE", 2⟩, ⟨.ident "KEY", 9⟩,
      ⟨.comma, 12⟩, ⟨.ident "v", 14⟩, ⟨.ident "ARRAY", 16⟩, ⟨.lt, 21⟩, ⟨.ident "BIGINT", 22⟩,
      ⟨.gt, 28⟩], 29⟩ := tokenize_eq_of_tokensBelow 10 (by decide +kernel)
  have ha : (readSchema a).outcome = .ok ⟨[⟨"k", .string⟩], [⟨"x,`y", .integer⟩]⟩ := by
    rw [readSchema_outcome, hta]
    rfl
  have hb : (readSchema b).outcome = .ok ⟨[⟨"k", .double⟩], [⟨"v", .array .bigint⟩]⟩ := by
    rw [readSchema_outcome, htb]
    rfl
  obtain ⟨hsome, hcolumns⟩ := readSchema_append_comma ha hb
  obtain ⟨both, hboth⟩ := hsome.2 ⟨List.cons_ne_nil _ _, List.cons_ne_nil _ _⟩
  exact ⟨ha, hb, both, hboth, hcolumns both hboth⟩

end Syntax

end SqlSchema
