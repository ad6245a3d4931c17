import Mathlib.Data.List.Forall2
import SqlSchema.Proofs.Written

/-!
# Which names are quoted

The text of a type or of a schema consists of keywords, names, numbers and punctuation marks. These
are its `Symbol`s, and they do not depend on what words are reserved. What depends on it is the token
that stands for a name: it is an identifier if the name looks like one and is not reserved, and it is
quoted otherwise. Keywords are never quoted, even if their words are reserved.

`Writes reserved l xs` says that the characters `l` are read as the tokens of the symbols `xs`,
wherever they stand. Texts are put together from pieces that a separator keeps apart
(`Writes.append`), so the tokens of a text are just those of its symbols (`quotes_as_needed`).
-/

namespace SqlSchema

open Syntax Text

/-! ## Symbols -/

/-- What the text of a type or of a schema consists of. -/
inductive Symbol where
  /-- The keyword of a type, or the mark of a key column. -/
  | keyword (word : String)
  | name (name : String)
  /-- A number or a punctuation mark. -/
  | sign (token : Token)

def Symbol.token (reserved : ReservedWords) : Symbol → Token
  | keyword word => .ident word
  | name n =>
    if Name.isIdentifier n ∧ uppercase n ∉ reserved.words then .ident n else .quoted n
  | sign token => token

/-- Lists of symbols with commas between them. -/
def separate (xss : List (List Symbol)) : List Symbol :=
  [.sign .comma].intercalate xss

mutual

def DataType.symbols : DataType → List Symbol
  | .decimal d => [.keyword "DECIMAL", .sign .lparen, .sign (.number d.precision), .sign .comma,
      .sign (.number d.scale), .sign .rparen]
  | .array item => .keyword "ARRAY" :: .sign .lt :: (item.symbols ++ [.sign .gt])
  | .map key value => .keyword "MAP" :: .sign .lt ::
      (key.symbols ++ .sign .comma :: (value.symbols ++ [.sign .gt]))
  | .struct fields => .keyword "STRUCT" :: .sign .lt :: (separate (fieldSymbols fields) ++
      [.sign .gt])
  | t => [.keyword t.kind.label]

/-- The symbols of each field: its name, then its type. -/
def fieldSymbols : List Field → List (List Symbol)
  | [] => []
  | ⟨name, type⟩ :: fs => (.name name :: type.symbols) :: fieldSymbols fs

end

def Column.symbols (c : Column) : List Symbol :=
  .name c.name :: (c.type.symbols ++ if c.isKey then [.keyword "KEY"] else [])

def Schema.symbols (s : Schema) : List Symbol :=
  separate (s.columns.map Column.symbols)

/-! ## Reading symbols -/

/-- The characters are read as the tokens of these symbols, wherever they stand in a text, if
something apart follows. -/
def Writes (reserved : ReservedWords) (l : List Char) (xs : List Symbol) : Prop :=
  ∀ n, ∃ ts, Lexes l n ts ∧ items ts = xs.map (Symbol.token reserved)

namespace Writes

variable {reserved : ReservedWords} {l r : List Char} {xs ys : List Symbol}

theorem nil : Writes reserved [] [] :=
  fun n => ⟨[], .nil n, rfl⟩

theorem symbol {x : Symbol} (h : Spells (x.token reserved) l) : Writes reserved l [x] :=
  fun n => ⟨_, .token h n, rfl⟩

theorem keyword {w : String} (hw : Name.isIdentifier w) :
    Writes reserved w.toList [.keyword w] :=
  symbol (.ident hw)

/-- A name is quoted exactly if it is no identifier or a reserved one. -/
theorem name (reserved : ReservedWords) (n : String) :
    Writes reserved (reserved.escape n).toList [.name n] :=
  symbol (reserved.spells_escape n)

theorem number (n : UInt32) : Writes reserved (toString n.toNat).toList [.sign (.number n)] :=
  symbol (spells_toString n)

theorem blank (hr : Writes reserved r ys) : Writes reserved (' ' :: r) ys := by
  intro n
  obtain ⟨us, hus, hitems⟩ := hr (n + 1)
  exact ⟨us, hus.blank, hitems⟩

theorem append {c : Char} (hl : Writes reserved l xs) (hc : Separates c)
    (hr : Writes reserved (c :: r) ys) : Writes reserved (l ++ c :: r) (xs ++ ys) := by
  intro n
  obtain ⟨ts, hts, hxs⟩ := hl n
  obtain ⟨us, hus, hys⟩ := hr (n + byteLength l)
  refine ⟨ts ++ us, hts.append hc hus, ?_⟩
  rw [items_append, hxs, hys, List.map_append]

theorem sign {k : Token} {c : Char} (hk : Spells k [c]) (he : ∀ rest, k.EndsBefore rest)
    (hr : Writes reserved r ys) : Writes reserved (c :: r) (.sign k :: ys) := by
  intro n
  obtain ⟨us, hus, hys⟩ := hr (n + byteLength [c])
  refine ⟨⟨k, n⟩ :: us, Lexes.cons hk (fun rest _ => he _) hus, ?_⟩
  rw [items_cons, hys]
  rfl

theorem comma (hr : Writes reserved r ys) :
    Writes reserved (',' :: ' ' :: r) (.sign .comma :: ys) :=
  sign .comma (fun _ => trivial) hr.blank

theorem opening {w : String} (hw : Name.isIdentifier w) (hr : Writes reserved r ys) :
    Writes reserved (w.toList ++ '<' :: r) (.keyword w :: .sign .lt :: ys) :=
  (keyword hw).append (by decide) (sign .lt (fun _ => trivial) hr)

theorem closing (hl : Writes reserved l xs) :
    Writes reserved (l ++ ['>']) (xs ++ [.sign .gt]) :=
  hl.append (by decide) (sign .gt (fun _ => trivial) nil)

theorem intercalate {ss : List String} {xss : List (List Symbol)}
    (h : List.Forall₂ (fun s xs => Writes reserved s.toList xs) ss xss) :
    Writes reserved (", ".intercalate ss).toList (separate xss) := by
  induction h with
  | nil => exact nil
  | @cons s xs ss xss hs hss ih =>
    cases hss with
    | nil =>
      rw [String.intercalate_singleton, separate, List.intercalate_singleton]
      exact hs
    | @cons s' xs' ss xss =>
      have hx : separate (xs :: xs' :: xss) = xs ++ .sign .comma :: separate (xs' :: xss) := by
        simp [separate, List.intercalate_cons_cons]
      rw [toList_intercalate_cons_cons, hx]
      exact hs.append (by decide) ih.comma

theorem tokenize_eq {s : String} (h : Writes reserved s.toList xs) :
    ∃ l, tokenize s = .ok l ∧ items l.tokens = xs.map (Symbol.token reserved) := by
  obtain ⟨ts, hts, hitems⟩ := h 0
  exact ⟨_, hts.tokenize_eq, hitems⟩

end Writes

/-! ## Texts -/

theorem DecimalType.writes_text (reserved : ReservedWords) (d : DecimalType) :
    Writes reserved d.text.toList (DataType.decimal d).symbols := by
  have hrparen : Writes reserved [')'] [.sign .rparen] := .sign .rparen (fun _ => trivial) .nil
  have hscale := (Writes.number d.scale).append (by decide) hrparen
  have hbounds := (Writes.number d.precision).append (by decide) hscale.comma
  rw [d.toList_text]
  exact (Writes.keyword (by decide)).append (by decide) (.sign .lparen (fun _ => trivial) hbounds)

mutual

theorem DataType.writes_render (reserved : ReservedWords) (t : DataType) :
    Writes reserved (t.render reserved).toList t.symbols := by
  cases t with
  | boolean => exact Writes.keyword (w := "BOOLEAN") (by decide)
  | integer => exact Writes.keyword (w := "INTEGER") (by decide)
  | bigint => exact Writes.keyword (w := "BIGINT") (by decide)
  | double => exact Writes.keyword (w := "DOUBLE") (by decide)
  | string => exact Writes.keyword (w := "STRING") (by decide)
  | decimal d => exact d.writes_text reserved
  | array item =>
    rw [DataType.toList_render_array]
    exact .opening (by decide) (item.writes_render reserved).closing
  | map key value =>
    have hvalue := (value.writes_render reserved).closing
    rw [DataType.toList_render_map]
    exact .opening (by decide) ((key.writes_render reserved).append (by decide) hvalue.comma)
  | struct fields =>
    have hfields := Writes.intercalate (writes_renderFields reserved fields)
    cases fields with
    | nil =>
      rw [DataType.toList_render_struct_nil]
      exact .opening (by decide) (Writes.nil.closing.blank)
    | cons f fs =>
      rw [DataType.toList_render_struct_cons]
      exact .opening (by decide) hfields.closing

theorem writes_renderFields (reserved : ReservedWords) (fs : List Field) :
    List.Forall₂ (fun s xs => Writes reserved s.toList xs) (renderFields reserved fs)
      (fieldSymbols fs) := by
  cases fs with
  | nil => exact .nil
  | cons f fs =>
    obtain ⟨name, type⟩ := f
    refine .cons ?_ (writes_renderFields reserved fs)
    rw [Field.toList_render]
    exact (Writes.name reserved name).append (by decide) (type.writes_render reserved).blank

end

theorem Column.writes_render (reserved : ReservedWords) (c : Column) :
    Writes reserved (c.render reserved).toList c.symbols := by
  have hname := Writes.name reserved c.name
  have htype := c.type.writes_render reserved
  rw [c.toList_render, Column.symbols, Column.isKey]
  by_cases hkey : c.role = .key
  · have hmark : Writes reserved " KEY".toList [.keyword "KEY"] :=
      Writes.blank (Writes.keyword (w := "KEY") (by decide))
    simp only [hkey, if_true, decide_true]
    exact hname.append (by decide) (htype.append (by decide) hmark).blank
  · simp only [hkey, if_false, decide_false, Bool.false_eq_true, List.append_nil]
    exact hname.append (by decide) (by simpa using htype.blank)

theorem Schema.writes_render (reserved : ReservedWords) (s : Schema) :
    Writes reserved (s.render reserved).toList s.symbols := by
  apply Writes.intercalate
  rw [List.forall₂_map_left_iff, List.forall₂_map_right_iff, List.forall₂_same]
  intro c _
  exact c.writes_render reserved

/-! ## Other reserved words -/

/-- The two tokens are a name, in one of them without quotes and in the other one with them. -/
def DifferInQuotes (name : String) (k l : Token) : Prop :=
  (k = .ident name ∧ l = .quoted name) ∨ (k = .quoted name ∧ l = .ident name)

theorem Symbol.token_eq_or_differInQuotes (x : Symbol) (o p : ReservedWords) :
    x.token o = x.token p ∨ ∃ name, x = .name name ∧ DifferInQuotes name (x.token o) (x.token p) := by
  cases x with
  | keyword word => exact Or.inl rfl
  | sign token => exact Or.inl rfl
  | name n =>
    have hcases : ∀ reserved, (Symbol.name n).token reserved = .ident n ∨
        (Symbol.name n).token reserved = .quoted n := by
      intro reserved
      rw [Symbol.token]
      split
      · exact Or.inl rfl
      · exact Or.inr rfl
    rcases hcases o with ho | ho <;> rcases hcases p with hp | hp <;>
      simp [ho, hp, DifferInQuotes]

/-- A text under any reserved words is read as the tokens of the symbols. -/
structure QuotesAsNeeded (symbols : List Symbol) (render : ReservedWords → String) : Prop where
  tokens_eq : ∀ reserved, ∃ l, tokenize (render reserved) = .ok l ∧
    items l.tokens = symbols.map (Symbol.token reserved)
  /-- With other reserved words only the quotes of names come or go. -/
  differ : ∀ o p, ∃ l m, tokenize (render o) = .ok l ∧ tokenize (render p) = .ok m ∧
    ∀ i : Nat, (items l.tokens)[i]? = (items m.tokens)[i]? ∨ ∃ name j k,
      symbols[i]? = some (.name name) ∧ (items l.tokens)[i]? = some j ∧
      (items m.tokens)[i]? = some k ∧ DifferInQuotes name j k

theorem quotesAsNeeded_of_writes {symbols : List Symbol} {render : ReservedWords → String}
    (h : ∀ reserved, Writes reserved (render reserved).toList symbols) :
    QuotesAsNeeded symbols render where
  tokens_eq reserved := (h reserved).tokenize_eq
  differ o p := by
    obtain ⟨l, hl, hlo⟩ := (h o).tokenize_eq
    obtain ⟨m, hm, hmp⟩ := (h p).tokenize_eq
    refine ⟨l, m, hl, hm, ?_⟩
    intro i
    rw [hlo, hmp, List.getElem?_map, List.getElem?_map]
    cases hx : symbols[i]? with
    | none => exact Or.inl rfl
    | some x =>
      rcases x.token_eq_or_differInQuotes o p with heq | ⟨name, rfl, hdiffer⟩
      · exact Or.inl (congrArg some heq)
      · exact Or.inr ⟨name, _, _, rfl, rfl, rfl, hdiffer⟩

/-- The text of a type or of a schema is read as the tokens of its symbols: keywords and marks of keys
without quotes whatever words are reserved, and each name without quotes exactly if it is an
identifier and not reserved. So two texts of the same type or schema differ in the quotes of names at
most. -/
theorem quotes_as_needed :
    (∀ t : DataType, QuotesAsNeeded t.symbols fun reserved => t.render reserved) ∧
    (∀ s : Schema, QuotesAsNeeded s.symbols fun reserved => s.render reserved) :=
  ⟨fun t => quotesAsNeeded_of_writes fun reserved => t.writes_render reserved,
    fun s => quotesAsNeeded_of_writes fun reserved => s.writes_render reserved⟩

/-- A key column is named like the mark of its role and one of its fields like its type. Both names
are reserved, so they are quoted, and the keywords are not. -/
example : (Schema.symbols ⟨[⟨"KEY", .struct [⟨"Struct", .double⟩, ⟨"x", .double⟩]⟩], []⟩).map
    (Symbol.token (.ofList ["key", "struct"])) =
      [.quoted "KEY", .ident "STRUCT", .lt, .quoted "Struct", .ident "DOUBLE", .comma, .ident "x",
        .ident "DOUBLE", .gt, .ident "KEY"] := by decide +kernel

end SqlSchema
