import SqlSchema.Proofs.Acceptance
import SqlSchema.Proofs.SchemaRoundTrip

/-!
# Different types have different texts

A text stands for one type or one schema at most, however deep it is nested and whatever words are
reserved (`common_text_iff_eq`). That a text can be read back does not show this, since a reader
gives up below the limit of nesting. The tokens of the text do: no limit applies to what they
derive, and they derive one type only.
-/

namespace SqlSchema

open Syntax Text

theorem eq_of_lexes {s : String} {ts us : Tokens} (hts : Lexes s.toList 0 ts)
    (hus : Lexes s.toList 0 us) : ts = us := by
  have h := hts.tokenize_eq
  rw [hus.tokenize_eq] at h
  exact (TokenList.mk.inj (Except.ok.inj h)).1.symm

/-- Types that share a text have derivations of the same tokens, which have one meaning. -/
theorem DataType.eq_of_render_eq {t u : DataType} {o p : ReservedWords} (ht : t.WellFormed)
    (hu : u.WellFormed) (h : t.render o = u.render p) : t = u := by
  obtain ⟨ts, hts, hx⟩ := t.exists_tokens o 0
  obtain ⟨us, hus, hy⟩ := u.exists_tokens p 0
  rw [h] at hts
  obtain rfl := eq_of_lexes hts hus
  have hmeaning : (t.tree o 0).type? = (u.tree p 0).type? :=
    (hx.eq_of_append_eq (r := []) hy rfl).2.2
  rw [t.type?_tree o 0 ht, u.type?_tree p 0 hu] at hmeaning
  exact Option.some.inj hmeaning

/-! ## Schemas -/

theorem columnTypes?_columnTrees (reserved : ReservedWords) (n : Nat) {cs : List Column}
    (h : ∀ c ∈ cs, c.type.WellFormed) :
    columnTypes? (columnTrees reserved n cs) = some (cs.map Column.roleAndField) := by
  induction cs generalizing n with
  | nil => rfl
  | cons c cs ih =>
    obtain ⟨hc, hcs⟩ := List.forall_mem_cons.1 h
    refine columnTypes?_cons_eq_some_iff.2
      ⟨c.type, c.type.type?_tree reserved _ hc, cs.map Column.roleAndField, ih _ hcs, ?_⟩
    rw [c.mk_name_type]
    rfl

/-- The text of a schema is read as tokens of the trees of its columns, if it has any. -/
theorem Schema.exists_tokens (reserved : ReservedWords) (s : Schema) :
    ∃ ts, Lexes (s.render reserved).toList 0 ts ∧
      DerivesSchema ts (columnTrees reserved 0 s.columns) := by
  unfold Schema.render
  cases s.columns with
  | nil => exact ⟨[], by simpa using Lexes.nil 0, .empty⟩
  | cons c cs =>
    obtain ⟨ts, hts, hd⟩ := exists_tokens_columns reserved 0 (List.cons_ne_nil c cs)
    exact ⟨ts, hts, .columns hd⟩

theorem Schema.eq_of_render_eq {r s : Schema} {o p : ReservedWords}
    (hr : ∀ c ∈ r.columns, c.type.WellFormed) (hs : ∀ c ∈ s.columns, c.type.WellFormed)
    (h : r.render o = s.render p) : r = s := by
  obtain ⟨ts, hts, hx⟩ := r.exists_tokens o
  obtain ⟨us, hus, hy⟩ := s.exists_tokens p
  rw [h] at hts
  obtain rfl := eq_of_lexes hts hus
  have hmeaning := hx.eq_of_items_eq hy rfl
  rw [columnTypes?_columnTrees o 0 hr, columnTypes?_columnTrees p 0 hs] at hmeaning
  calc r = .ofRoles (r.columns.map Column.roleAndField) := r.ofRoles_columns.symm
    _ = .ofRoles (s.columns.map Column.roleAndField) := by rw [Option.some.inj hmeaning]
    _ = s := s.ofRoles_columns

/-- Two well-formed types, nested to any depth, are the same if any text of the one, under any
reserved words, is a text of the other, under any others. So are two schemas of such types. -/
theorem common_text_iff_eq :
    (∀ t u : DataType, t.WellFormed → u.WellFormed →
      ((∃ o p : ReservedWords, t.render o = u.render p) ↔ t = u)) ∧
    (∀ r s : Schema, (∀ c ∈ r.columns, c.type.WellFormed) →
      (∀ c ∈ s.columns, c.type.WellFormed) →
      ((∃ o p : ReservedWords, r.render o = s.render p) ↔ r = s)) := by
  refine ⟨?_, ?_⟩
  · intro t u ht hu
    constructor
    · rintro ⟨o, p, h⟩
      exact DataType.eq_of_render_eq ht hu h
    · rintro rfl
      exact ⟨.none, .none, rfl⟩
  · intro r s hr hs
    constructor
    · rintro ⟨o, p, h⟩
      exact Schema.eq_of_render_eq hr hs h
    · rintro rfl
      exact ⟨.none, .none, rfl⟩

/-- Inside more arrays than a reader takes, a field whose name imitates two fields is told from the
two, whatever words are reserved. -/
theorem common_text_imitation :
    let t : DataType := Nat.repeat .array 300 (.struct [⟨"a INTEGER, b", .string⟩])
    let u : DataType := Nat.repeat .array 300 (.struct [⟨"a", .integer⟩, ⟨"b", .string⟩])
    t.WellFormed ∧ u.WellFormed ∧ nestingLimit < t.nesting ∧
      ¬ ∃ o p : ReservedWords, t.render o = u.render p := by
  intro t u
  have ht : t.WellFormed := by
    have hfields : (DataType.struct [⟨"a INTEGER, b", .string⟩]).WellFormed :=
      ⟨by decide, trivial, trivial⟩
    exact hfields
  have hu : u.WellFormed := by
    have hfields : (DataType.struct [⟨"a", .integer⟩, ⟨"b", .string⟩]).WellFormed :=
      ⟨by decide, trivial, trivial, trivial⟩
    exact hfields
  refine ⟨ht, hu, by decide +kernel, ?_⟩
  intro h
  have htu : t = u := (common_text_iff_eq.1 t u ht hu).1 h
  exact absurd htu (by decide +kernel)

end SqlSchema
