import SqlSchema.Proofs.Lexemes
import SqlSchema.Proofs.Resolution

/-!
# The tokens of a written type

`DataType.tree` is the syntax tree of the text of a type, with the offsets of its keywords and field
names in this text. The text is read as tokens that are derived with just this tree
(`DataType.exists_tokens`), whatever the names of its fields and the reserved words are.
-/

namespace SqlSchema

open Syntax Text

/-! ## Syntax trees of types -/

mutual

/-- The syntax tree of the text of a type that stands at the offset `n`. -/
def DataType.tree (reserved : ReservedWords) (n : Nat) : DataType → Tree
  | .decimal d => .decimal n d.precision d.scale
  | .array item => .array n (item.tree reserved (n + 6))
  | .map key value => .map n (key.tree reserved (n + 4))
      (value.tree reserved (n + 4 + (key.render reserved).utf8ByteSize + 2))
  | .struct fields => .struct n (fieldTrees reserved (n + 7) fields)
  | t => .simple n t

/-- The syntax trees of fields whose texts stand from the offset `n` on. -/
def fieldTrees (reserved : ReservedWords) (n : Nat) : List Field → List FieldTree
  | [] => []
  | ⟨name, type⟩ :: fs =>
    let start := n + (reserved.escape name).utf8ByteSize + 1
    ⟨name, n, type.tree reserved start⟩ ::
      fieldTrees reserved (start + (type.render reserved).utf8ByteSize + 2) fs

end

theorem DataType.offset_tree (reserved : ReservedWords) (n : Nat) (t : DataType) :
    (t.tree reserved n).offset = n := by
  cases t <;> rfl

mutual

theorem DataType.type?_tree (reserved : ReservedWords) (n : Nat) (t : DataType)
    (h : t.WellFormed) : (t.tree reserved n).type? = some t := by
  cases t with
  | boolean | integer | bigint | double | string => rfl
  | decimal d => exact Tree.type?_decimal_eq_some_iff.2 ⟨d, ⟨rfl, rfl⟩, rfl⟩
  | array item =>
    rw [DataType.tree, Tree.type?, item.type?_tree reserved _ h]
    rfl
  | map key value =>
    exact Tree.type?_map_eq_some_iff.2
      ⟨key, key.type?_tree reserved _ h.1, value, value.type?_tree reserved _ h.2, rfl⟩
  | struct fields =>
    exact Tree.type?_struct_eq_some_iff.2
      ⟨fields, fieldTypes?_fieldTrees reserved _ fields h.2, h.1, rfl⟩

theorem fieldTypes?_fieldTrees (reserved : ReservedWords) (n : Nat) (fs : List Field)
    (h : AllWellFormed fs) : fieldTypes? (fieldTrees reserved n fs) = some fs := by
  cases fs with
  | nil => rfl
  | cons f fs =>
    obtain ⟨name, type⟩ := f
    exact fieldTypes?_cons_eq_some_iff.2 ⟨type, type.type?_tree reserved _ h.1, fs,
      fieldTypes?_fieldTrees reserved _ fs h.2, rfl⟩

end

/-! ## Names and numbers -/

/-- A name is written as an identifier if it is one and not reserved, and else in quotes. -/
theorem ReservedWords.spells_escape (reserved : ReservedWords) (name : String) :
    Spells (if Name.isIdentifier name ∧ Text.uppercase name ∉ reserved.words then .ident name
      else .quoted name) (reserved.escape name).toList := by
  rw [ReservedWords.escape, ReservedWords.contains]
  by_cases h : Name.isIdentifier name ∧ Text.uppercase name ∉ reserved.words
  · rw [if_pos h, if_pos (by simpa using h)]
    exact .ident h.1
  · rw [if_neg h, if_neg (by simpa using h), Name.quote, String.toList_ofList]
    exact .quoted name

theorem ReservedWords.exists_spells_escape (reserved : ReservedWords) (name : String) :
    ∃ k, Spells k (reserved.escape name).toList ∧ k.name? = some name := by
  refine ⟨_, reserved.spells_escape name, ?_⟩
  split <;> rfl

theorem spells_toString (n : UInt32) : Spells (.number n) (toString n.toNat).toList := by
  rw [Nat.toString_eq_ofList_toDigits, String.toList_ofList]
  refine .number Nat.toDigits_ne_nil ?_ Nat.ofDigitChars_ten_toDigits
  intro d hd
  exact Nat.isDigit_of_mem_toDigits (by decide) (by decide) hd

/-! ## Tokens of types -/

theorem exists_tokens_simple {w : String} {t : DataType} (hi : Name.isIdentifier w)
    (hw : IsKeyword w (.simple t)) (n : Nat) :
    ∃ ts, Lexes w.toList n ts ∧ Derives ts (.simple n t) :=
  ⟨_, .token (.ident hi) n, .simple hw⟩

theorem lexes_opening {w : String} {l : List Char} {n : Nat} {ts : Tokens}
    (hw : Name.isIdentifier w) (h : Lexes l (n + byteLength w.toList + 1) ts) :
    Lexes (w.toList ++ '<' :: l) n
      (⟨.ident w, n⟩ :: ⟨.lt, n + byteLength w.toList⟩ :: ts) :=
  (Lexes.token (.ident hw) n).append (by decide) (.cons .lt (fun _ _ => trivial) h)

theorem lexes_closing (n : Nat) : Lexes ['>'] n [⟨.gt, n⟩] :=
  .token .gt n

theorem lexes_comma {l : List Char} {n : Nat} {ts : Tokens} (h : Lexes l (n + 2) ts) :
    Lexes (',' :: ' ' :: l) n (⟨.comma, n⟩ :: ts) :=
  .cons .comma (fun _ _ => trivial) (.blank h)

theorem DecimalType.exists_tokens (d : DecimalType) (n : Nat) :
    ∃ ts, Lexes d.text.toList n ts ∧ Derives ts (.decimal n d.precision d.scale) := by
  rw [d.toList_text]
  have hw := TypeWord.decimal.isKeyword
  have hscale := fun m => (Lexes.token (spells_toString d.scale) m).append (by decide)
    (.token .rparen _)
  have hbounds := fun m => (Lexes.token (spells_toString d.precision) m).append (by decide)
    (lexes_comma (hscale _))
  exact ⟨_, (Lexes.token (.ident (by decide)) n).append (by decide)
    (.cons .lparen (fun _ _ => trivial) (hbounds _)), .decimal hw⟩

mutual

/-- The text of a type is read as tokens of its tree. -/
theorem DataType.exists_tokens (reserved : ReservedWords) (n : Nat) (t : DataType) :
    ∃ ts, Lexes (t.render reserved).toList n ts ∧ Derives ts (t.tree reserved n) := by
  cases t with
  | boolean => exact exists_tokens_simple (w := "BOOLEAN") (by decide) TypeWord.boolean.isKeyword n
  | integer => exact exists_tokens_simple (w := "INTEGER") (by decide) TypeWord.integer.isKeyword n
  | bigint => exact exists_tokens_simple (w := "BIGINT") (by decide) TypeWord.bigint.isKeyword n
  | double => exact exists_tokens_simple (w := "DOUBLE") (by decide) TypeWord.double.isKeyword n
  | string => exact exists_tokens_simple (w := "STRING") (by decide) TypeWord.string.isKeyword n
  | decimal d => exact d.exists_tokens n
  | array item =>
    obtain ⟨ts, hts, hd⟩ := item.exists_tokens reserved (n + 6)
    have hrest := hts.append (by decide) (lexes_closing _)
    rw [DataType.toList_render_array]
    exact ⟨_, lexes_opening (by decide) hrest, .array TypeWord.array.isKeyword hd⟩
  | map key value =>
    obtain ⟨ks, hks, hk⟩ := key.exists_tokens reserved (n + 4)
    obtain ⟨vs, hvs, hv⟩ := value.exists_tokens reserved
      (n + 4 + (key.render reserved).utf8ByteSize + 2)
    rw [← byteLength_toList] at hvs
    have hvalue := hvs.append (by decide) (lexes_closing _)
    have hrest := hks.append (by decide) (lexes_comma hvalue)
    rw [DataType.toList_render_map]
    exact ⟨_, lexes_opening (by decide) hrest, .map TypeWord.map.isKeyword hk hv⟩
  | struct fields =>
    cases fields with
    | nil =>
      rw [DataType.toList_render_struct_nil]
      exact ⟨_, lexes_opening (by decide) (.blank (lexes_closing _)),
        .emptyStruct TypeWord.struct.isKeyword⟩
    | cons f fs =>
      obtain ⟨ts, hts, hd⟩ := exists_tokens_fields reserved (n + 7) (f :: fs) (by simp)
      have hrest := hts.append (by decide) (lexes_closing _)
      rw [DataType.toList_render_struct_cons]
      exact ⟨_, lexes_opening (by decide) hrest, .struct TypeWord.struct.isKeyword hd⟩

theorem exists_tokens_fields (reserved : ReservedWords) (n : Nat) (fs : List Field)
    (hne : fs ≠ []) : ∃ ts, Lexes (", ".intercalate (renderFields reserved fs)).toList n ts ∧
      DerivesFields ts (fieldTrees reserved n fs) := by
  match fs with
  | [⟨name, type⟩] =>
    obtain ⟨k, hk, hname⟩ := reserved.exists_spells_escape name
    obtain ⟨ts, hts, hd⟩ := type.exists_tokens reserved
      (n + (reserved.escape name).utf8ByteSize + 1)
    rw [← byteLength_toList] at hts
    rw [renderFields, renderFields, String.intercalate_singleton, Field.toList_render]
    exact ⟨_, (Lexes.token hk n).append (by decide) (.blank hts), .one hname hd⟩
  | ⟨name, type⟩ :: g :: gs =>
    obtain ⟨k, hk, hname⟩ := reserved.exists_spells_escape name
    obtain ⟨ts, hts, hd⟩ := type.exists_tokens reserved
      (n + (reserved.escape name).utf8ByteSize + 1)
    obtain ⟨us, hus, hd'⟩ := exists_tokens_fields reserved
      (n + (reserved.escape name).utf8ByteSize + 1 + (type.render reserved).utf8ByteSize + 2)
      (g :: gs) (by simp)
    simp only [← byteLength_toList] at hts hus
    have hrest := hts.append (by decide) (lexes_comma hus)
    rw [renderFields, renderFields, toList_intercalate_cons_cons, Field.toList_render,
      List.append_assoc, List.cons_append]
    exact ⟨_, (Lexes.token hk n).append (by decide) (.blank hrest), .cons hname hd hd'⟩

end

end SqlSchema
