import SqlSchema.Proofs.DistinctTexts
import SqlSchema.Proofs.Joins
import SqlSchema.Proofs.Rejections

/-!
# What was expected is not what was found

A rejection tells what was expected and what was found, and the two never read the same
(`mismatch_texts_ne`). For kinds and for the numbers of a decimal this is seen from the words. For
the fields of a STRUCT and for the keys of a join it takes that a text stands for one type, here of
any types at all, also of such as repeat a field name: tokens that are derived with the trees of two
types are tokens of one and the same type (`DataType.eq_of_derives`).
-/

namespace SqlSchema

open Syntax

/-! ## One type for each text -/

theorem DataType.kind_eq_of_type?_tree {reserved : ReservedWords} {n : Nat} {t u : DataType}
    (h : (u.tree reserved n).type? = some t) : u.kind = t.kind := by
  cases u with
  | boolean | integer | bigint | double | string =>
    obtain rfl := Option.some.inj h
    rfl
  | decimal d =>
    obtain ⟨d', -, rfl⟩ := Tree.type?_decimal_eq_some_iff.1 h
    rfl
  | array item =>
    obtain ⟨a, -, rfl⟩ := Option.map_eq_some_iff.1 h
    rfl
  | map key value =>
    obtain ⟨a, -, b, -, rfl⟩ := Tree.type?_map_eq_some_iff.1 h
    rfl
  | struct fields =>
    obtain ⟨fs, -, -, rfl⟩ := Tree.type?_struct_eq_some_iff.1 h
    rfl

/-- The keyword of a type decides what the grammar asks of the tree of another with its tokens. -/
theorem heads_of_items_eq {us : Tokens} {w : String} {kw : Keyword} {x : Tree} {r : List Token}
    (hx : Derives us x) (hw : IsKeyword w kw) (h : .ident w :: r = items us) :
    kw.Heads w us x := by
  have hcons : items us ++ [] = .ident w :: r := by rw [List.append_nil, h]
  exact hx.heads hw hcons

theorem Syntax.DerivesFields.exists_cons_type {ts : Tokens} {name : String} {o : Nat} {x : Tree}
    {fs : List FieldTree} (h : DerivesFields ts (⟨name, o, x⟩ :: fs)) :
    ∃ k us tail, k.name? = some name ∧ Derives us x ∧ items ts = k :: (items us ++ tail) ∧
      ((fs = [] ∧ tail = []) ∨ ∃ vs, DerivesFields vs fs ∧ tail = .comma :: items vs) := by
  cases h with
  | one hk hx => exact ⟨_, _, [], hk, hx, by simp, Or.inl ⟨rfl, rfl⟩⟩
  | cons hk hx hf => exact ⟨_, _, _, hk, hx, by simp, Or.inr ⟨_, hf, rfl⟩⟩

theorem eq_nil_of_fieldTrees {reserved : ReservedWords} {n : Nat} {fs : List Field}
    (h : fieldTrees reserved n fs = []) : fs = [] := by
  cases fs with
  | nil => rfl
  | cons f fs =>
    obtain ⟨name, type⟩ := f
    cases h

mutual

/-- Tokens are derived with the tree of one type at most. The induction is on the type, and the
keyword at the start of the tokens gives the other type its shape. -/
theorem DataType.eq_of_derives {o p : ReservedWords} {n m : Nat} {ts us : Tokens} (t : DataType)
    {u : DataType} (ht : Derives ts (t.tree o n)) (hu : Derives us (u.tree p m))
    (h : items ts = items us) : t = u := by
  cases t with
  | boolean | integer | bigint | double | string =>
    cases ht with
    | simple hw =>
      obtain ⟨-, hu⟩ := heads_of_items_eq hu hw h
      exact (DataType.eq_of_kind_eq rfl (DataType.kind_eq_of_type?_tree hu)).symm
  | decimal d =>
    cases ht with
    | decimal hw =>
      obtain ⟨_, _, _, hu, hus⟩ := heads_of_items_eq hu hw h
      cases u with
      | decimal d' =>
        cases hu
        rw [hus] at h
        simp only [items_cons, items_nil, List.cons.injEq, Token.number.injEq] at h
        obtain ⟨-, -, hp, -, hs, -⟩ := h
        rw [DecimalType.eq_of_bounds_eq hp hs]
      | _ => cases hu
  | array item =>
    cases ht with
    | array hw hx =>
      obtain ⟨_, _, _, hu, hy, hus⟩ := heads_of_items_eq hu hw h
      cases u with
      | array item' =>
        cases hu
        rw [hus] at h
        simp only [items_cons, items_append, items_nil, List.cons.injEq, true_and] at h
        rw [item.eq_of_derives hx hy (List.append_cancel_right h)]
      | _ => cases hu
  | map key value =>
    cases ht with
    | map hw hk hv =>
      obtain ⟨_, _, _, _, _, hu, hk', hv', hus⟩ := heads_of_items_eq hu hw h
      cases u with
      | map key' value' =>
        cases hu
        rw [hus] at h
        simp only [items_cons, items_append, items_nil, List.cons.injEq, true_and] at h
        obtain ⟨hkeys, hrest, -⟩ := hk.eq_of_append_eq hk' h
        obtain ⟨-, hvalues⟩ := List.cons.inj hrest
        rw [key.eq_of_derives hk hk' hkeys,
          value.eq_of_derives hv hv' (List.append_cancel_right hvalues)]
      | _ => cases hu
  | struct fields =>
    cases fields with
    | nil =>
      cases ht with
      | emptyStruct hw =>
        obtain ⟨_, _, hu, ⟨rfl, -⟩ | ⟨us', hf, hus⟩⟩ := heads_of_items_eq hu hw h
        · cases u with
          | struct fields' =>
            rw [eq_nil_of_fieldTrees (Tree.struct.inj hu).2]
          | _ => cases hu
        · -- The bracket that closes the one struct would be the first name of the other.
          rw [hus] at h
          simp only [items_cons, items_nil, List.cons.injEq, true_and] at h
          exact absurd h.symm hf.append_ne_gt
      | struct hw hf => cases hf
    | cons f fs =>
      obtain ⟨name, type⟩ := f
      cases ht with
      | struct hw hf =>
        obtain ⟨_, _, hu, ⟨rfl, hus⟩ | ⟨us', hf', hus⟩⟩ := heads_of_items_eq hu hw h
        · rw [hus] at h
          simp only [items_cons, items_append, items_nil, List.cons.injEq, true_and] at h
          exact absurd h hf.append_ne_gt
        · cases u with
          | struct fields' =>
            cases hu
            rw [hus] at h
            simp only [items_cons, items_append, items_nil, List.cons.injEq, true_and] at h
            rw [fields_eq_of_derives _ hf hf' (List.append_cancel_right h)]
          | _ => cases hu

theorem fields_eq_of_derives {o p : ReservedWords} {n m : Nat} {ts us : Tokens} (fs : List Field)
    {gs : List Field} (hf : DerivesFields ts (fieldTrees o n fs))
    (hg : DerivesFields us (fieldTrees p m gs)) (h : items ts = items us) : fs = gs := by
  cases fs with
  | nil => cases hf
  | cons f fs =>
    cases gs with
    | nil => cases hg
    | cons g gs =>
      obtain ⟨name, type⟩ := f
      obtain ⟨name', type'⟩ := g
      obtain ⟨k, ts', tail, hk, hx, hts, htail⟩ := hf.exists_cons_type
      obtain ⟨k', us', tail', hk', hy, hus, htail'⟩ := hg.exists_cons_type
      rw [hts, hus] at h
      obtain ⟨rfl, hrest⟩ := List.cons.inj h
      obtain ⟨htypes, rfl, -⟩ := hx.eq_of_append_eq hy hrest
      have hname : name = name' := Option.some.inj (hk.symm.trans hk')
      have htype : type = type' := type.eq_of_derives hx hy htypes
      have hfields : fs = gs := by
        rcases htail with ⟨hfs, rfl⟩ | ⟨vs, hf, rfl⟩
        · rcases htail' with ⟨hgs, -⟩ | ⟨ws, hg, htail⟩
          · rw [eq_nil_of_fieldTrees hfs, eq_nil_of_fieldTrees hgs]
          · cases htail
        · rcases htail' with ⟨-, htail⟩ | ⟨ws, hg, htail⟩
          · cases htail
          · exact fields_eq_of_derives fs hf hg (List.cons.inj htail).2
      rw [hname, htype, hfields]

end

/-- Types that share a text are the same, whatever the names of their fields are. -/
theorem DataType.eq_of_text_eq {t u : DataType} (h : t.text = u.text) : t = u := by
  obtain ⟨ts, hts, ht⟩ := t.exists_tokens .none 0
  obtain ⟨us, hus, hu⟩ := u.exists_tokens .none 0
  have hsame : t.render .none = u.render .none := h
  rw [hsame] at hts
  exact t.eq_of_derives ht hu (congrArg items (eq_of_lexes hts hus))

/-! ## Words that differ -/

theorem Kind.eq_of_label_eq {a b : Kind} (h : a.label = b.label) : a = b := by
  cases a <;> cases b <;> first | rfl | exact absurd h (by decide)

theorem DecimalType.head_text (d : DecimalType) : d.text.toList.head? = some 'D' := by
  simp [DecimalType.text]

theorem Refuses.texts_ne {t : DataType} {v : Value} {expected found : String}
    (h : Refuses Value.kind t v expected found) : expected ≠ found := by
  cases h with
  | simple _ hkind => exact fun h => hkind (Kind.eq_of_label_eq h).symm
  | kind _ hkind => exact fun h => hkind (Kind.eq_of_label_eq h).symm
  | @precision d x _ =>
    intro h
    have hhead := d.head_text
    rw [h] at hhead
    simp at hhead
  | @scale d x _ _ =>
    intro h
    have hhead := d.head_text
    rw [h] at hhead
    simp at hhead
  | fields hfields =>
    intro h
    exact hfields (DataType.struct.inj (DataType.eq_of_text_eq h)).symm

theorem DataError.Says.unique {e : DataError} {places places' : List String}
    {expected expected' found found' : String} (h : e.Says places expected found)
    (h' : e.Says places' expected' found') : expected = expected' ∧ found = found' := by
  induction h generalizing places' with
  | mismatch expected found =>
    cases h'
    exact ⟨rfl, rfl⟩
  | nested place _ ih =>
    cases h' with
    | nested _ h' => exact ih h'

theorem DataError.Says.message_eq {e : DataError} {places : List String} {expected found : String}
    (h : e.Says places expected found) :
    e.message = String.join (places.map (· ++ ": ")) ++
      ("Expected " ++ expected ++ ", got " ++ found) := by
  induction h with
  | mismatch expected found => simp [DataError.message]
  | nested place _ ih =>
    rw [DataError.message, ih]
    simp [String.append_assoc]

/-! ## Rejections -/

/-- An error of a check ends in a mismatch, and in the words of this what was expected differs from
what was found. So do the texts of the two types in the words of a join that is refused for the
types of its keys. -/
theorem mismatch_texts_ne :
    (∀ (t : DataType) (c : Option Value) (e : DataError), (t.check c).outcome = .error e →
      (∃ places expected found, e.Says places expected found) ∧
      ∀ places expected found, e.Says places expected found → expected ≠ found ∧
        e.message = String.join (places.map (· ++ ": ")) ++
          ("Expected " ++ expected ++ ", got " ++ found)) ∧
    (∀ (left right : Schema) (k l : DataType),
      (left.join right).outcome = .error (.keyTypeMismatch k l) → k.text ≠ l.text ∧
        (JoinError.keyTypeMismatch k l).message =
          "Invalid join. Key types differ: " ++ k.text ++ " vs " ++ l.text) := by
  refine ⟨?_, ?_⟩
  · intro t c e h
    obtain ⟨v, -, hv⟩ := DataType.exists_value_of_error h
    obtain ⟨places, u, w, expected, found, hsays, -, hrefuses⟩ := DataError.exists_pathTo hv
    refine ⟨⟨places, expected, found, hsays⟩, ?_⟩
    intro places' expected' found' hsays'
    obtain ⟨rfl, rfl⟩ := hsays.unique hsays'
    exact ⟨hrefuses.texts_ne, hsays'.message_eq⟩
  · intro left right k l h
    refine ⟨?_, rfl⟩
    rcases Schema.join_eq_error_iff.1 h with ⟨-, he⟩ | ⟨-, -, he⟩ | ⟨x, y, -, -, htypes, he⟩
    · cases he
    · cases he
    · cases he
      exact fun htext => htypes (DataType.eq_of_text_eq htext)

/-- A field whose name imitates two fields is told from the two, in an element of an array and as
the type of a key. -/
theorem mismatch_texts_ne_imitation :
    let t : DataType := .struct [⟨"a", .integer⟩, ⟨"b", .string⟩]
    let u : DataType := .struct [⟨"a INTEGER, b", .string⟩]
    let v : Value := .array [none, some (.record [(⟨"a INTEGER, b", .string⟩, none)])]
    let e : DataError := .nested (.element 1) (.mismatch (.type t) (.type u))
    let left : Schema := ⟨[⟨"K", u⟩], []⟩
    let right : Schema := ⟨[⟨"K", t⟩], []⟩
    ((DataType.array t).check (some v)).outcome = .error e ∧
      e.Says ["ARRAY element 2"] t.text u.text ∧ t.text ≠ u.text ∧
      (left.join right).outcome = .error (.keyTypeMismatch u t) ∧ u.text ≠ t.text := by
  intro t u v e left right
  have he : ((DataType.array t).check (some v)).outcome = .error e := rfl
  have hsays : e.Says ["ARRAY element 2"] t.text u.text :=
    .nested (.element 1) (.mismatch (.type t) (.type u))
  have hjoin : (left.join right).outcome = .error (.keyTypeMismatch u t) := rfl
  obtain ⟨hne, -⟩ := (mismatch_texts_ne.1 (.array t) (some v) e he).2 _ _ _ hsays
  obtain ⟨hkeys, -⟩ := mismatch_texts_ne.2 left right u t hjoin
  exact ⟨he, hsays, hne, hjoin, hkeys⟩

end SqlSchema
