import SqlSchema.Syntax.SchemaReader

/-!
# The grammar of types and column lists

`Derives ts tree` says that the tokens `ts` are a type of the grammar with the syntax tree `tree`,
and `DerivesColumns ts columns` that they are a column list. The grammar says nothing about the
bounds of decimals, the names of fields or the nesting of types. `Tree.type?` asks for the
first two.

Which words are keywords is said by `TypeWord`, and `SameButCase` compares them. That the readers
look for just these words is `keyword?_eq_some_iff` and `isKeyMark_iff`.
-/

namespace SqlSchema.Syntax

/-- Tokens with their places in a text. -/
abbrev Tokens := List (Located Token)

def items (ts : Tokens) : List Token :=
  ts.map Located.item

@[simp] theorem items_nil : items [] = [] := rfl

@[simp] theorem items_cons (k : Located Token) (ts : Tokens) :
    items (k :: ts) = k.item :: items ts := rfl

@[simp] theorem items_append (ts us : Tokens) : items (ts ++ us) = items ts ++ items us :=
  List.map_append

/-! ## Keywords -/

/-- The words differ at most in the case of letters. -/
def SameButCase (v w : String) : Prop :=
  v.toList.map Char.toLower = w.toList.map Char.toLower

instance (v w : String) : Decidable (SameButCase v w) :=
  inferInstanceAs (Decidable (_ = _))

/-- The words of the grammar that start a type, with what each of them starts. -/
inductive TypeWord : String → Keyword → Prop
  | boolean : TypeWord "BOOLEAN" (.simple .boolean)
  | int : TypeWord "INT" (.simple .integer)
  | integer : TypeWord "INTEGER" (.simple .integer)
  | bigint : TypeWord "BIGINT" (.simple .bigint)
  | double : TypeWord "DOUBLE" (.simple .double)
  | string : TypeWord "STRING" (.simple .string)
  | varchar : TypeWord "VARCHAR" (.simple .string)
  | decimal : TypeWord "DECIMAL" .decimal
  | array : TypeWord "ARRAY" (.container .array)
  | map : TypeWord "MAP" (.container .map)
  | struct : TypeWord "STRUCT" (.container .struct)

/-- The identifier is a keyword of the grammar, in any case. -/
def IsKeyword (w : String) (kw : Keyword) : Prop :=
  ∃ word, TypeWord word kw ∧ SameButCase w word

theorem toNat_toLower (c : Char) : c.toLower.toNat =
    if 65 ≤ c.toNat ∧ c.toNat ≤ 90 then c.toNat + 32 else c.toNat := by
  by_cases h : c.val ≥ 'A'.val ∧ c.val ≤ 'Z'.val
  · have hval : c.toLower.val = c.val + 32 := congrArg Char.val (dif_pos h)
    have hle : 65 ≤ c.toNat ∧ c.toNat ≤ 90 := h
    rw [if_pos hle, ← Char.toNat_val, hval, UInt32.toNat_add, Char.toNat_val]
    exact Nat.mod_eq_of_lt (by simp; omega)
  · have hle : ¬ (65 ≤ c.toNat ∧ c.toNat ≤ 90) := h
    rw [if_neg hle, show c.toLower = c from dif_neg h]

theorem toNat_toUpper (c : Char) : c.toUpper.toNat =
    if 97 ≤ c.toNat ∧ c.toNat ≤ 122 then c.toNat - 32 else c.toNat := by
  by_cases h : 'a'.val ≤ c.val ∧ c.val ≤ 'z'.val
  · have hval : c.toUpper.val = c.val + ('A'.val - 'a'.val) := by
      show Char.val (dite _ _ _) = _
      rw [dif_pos h]
    have hle : 97 ≤ c.toNat ∧ c.toNat ≤ 122 := h
    have hminus : ('A'.val - 'a'.val).toNat = 2 ^ 32 - 32 := by decide
    rw [if_pos hle, ← Char.toNat_val, hval, UInt32.toNat_add, hminus, Char.toNat_val]
    omega
  · have hle : ¬ (97 ≤ c.toNat ∧ c.toNat ≤ 122) := h
    rw [if_neg hle, show c.toUpper = c from dif_neg h]

/-- With a letter in upper case, characters are compared alike by upper and by lower case. -/
theorem toUpper_eq_iff {c u : Char} (hu : u.isUpper) : c.toUpper = u ↔ c.toLower = u.toLower := by
  have hle : 65 ≤ u.toNat ∧ u.toNat ≤ 90 := of_decide_eq_true hu
  rw [← Char.toNat_inj, ← Char.toNat_inj, toNat_toUpper, toNat_toLower, toNat_toLower,
    if_pos hle]
  split <;> split <;> omega

theorem map_toUpper_eq_iff {cs us : List Char} (hu : us.all Char.isUpper) :
    cs.map Char.toUpper = us ↔ cs.map Char.toLower = us.map Char.toLower := by
  induction us generalizing cs with
  | nil => simp
  | cons u us ih =>
    rw [List.all_cons, Bool.and_eq_true] at hu
    cases cs with
    | nil => simp
    | cons c cs => simp [toUpper_eq_iff hu.1, ih hu.2]

theorem upperIdent_eq_iff {w word : String} (h : word.toList.all Char.isUpper) :
    upperIdent w = word ↔ SameButCase w word := by
  rw [upperIdent, SameButCase, ← map_toUpper_eq_iff h, ← String.toList_inj, String.toList_ofList]

theorem isKeyMark_iff {w : String} : SchemaReader.isKeyMark w ↔ SameButCase w "KEY" := by
  rw [SchemaReader.isKeyMark, decide_eq_true_eq]
  exact upperIdent_eq_iff (by decide)

theorem TypeWord.upper {word : String} {kw : Keyword} (h : TypeWord word kw) :
    word.toList.all Char.isUpper := by
  cases h <;> decide

theorem typeWord_iff {word : String} {kw : Keyword} :
    TypeWord word kw ↔ keywords.lookup word = some kw := by
  constructor
  · intro h
    cases h <;> rfl
  · intro h
    obtain ⟨l₁, l₂, hl, -⟩ := List.lookup_eq_some_iff.1 h
    have hmem : (word, kw) ∈ keywords := by simp [hl]
    simp only [keywords, List.mem_cons, Prod.mk.injEq, List.not_mem_nil, or_false] at hmem
    rcases hmem with ⟨rfl, rfl⟩ | ⟨rfl, rfl⟩ | ⟨rfl, rfl⟩ | ⟨rfl, rfl⟩ | ⟨rfl, rfl⟩ |
      ⟨rfl, rfl⟩ | ⟨rfl, rfl⟩ | ⟨rfl, rfl⟩ | ⟨rfl, rfl⟩ | ⟨rfl, rfl⟩ | ⟨rfl, rfl⟩ <;> constructor

/-- The readers take just the keywords of the grammar for keywords. -/
theorem keyword?_eq_some_iff {w : String} {kw : Keyword} :
    keyword? w = some kw ↔ IsKeyword w kw := by
  rw [keyword?, ← typeWord_iff]
  constructor
  · intro h
    exact ⟨_, h, (upperIdent_eq_iff h.upper).1 rfl⟩
  · rintro ⟨word, h, hw⟩
    rwa [(upperIdent_eq_iff h.upper).2 hw]

theorem TypeWord.isKeyword {word : String} {kw : Keyword} (h : TypeWord word kw) :
    IsKeyword word kw :=
  ⟨word, h, rfl⟩

theorem IsKeyword.unique {w : String} {kw kw' : Keyword} (h : IsKeyword w kw)
    (h' : IsKeyword w kw') : kw = kw' := by
  rw [← keyword?_eq_some_iff] at h h'
  rw [h] at h'
  exact Option.some.inj h'

/-! ## Phrases -/

mutual

/-- The syntax tree of a type. Each type has the offset of its keyword. -/
inductive Tree where
  | simple (offset : Nat) (type : DataType)
  | decimal (offset : Nat) (precision scale : UInt32)
  | array (offset : Nat) (item : Tree)
  | map (offset : Nat) (key value : Tree)
  | struct (offset : Nat) (fields : List FieldTree)

structure FieldTree where
  name : String
  offset : Nat
  type : Tree

end

structure ColumnTree where
  name : String
  type : Tree
  role : Role

mutual

/-- The tokens are a type with this tree. -/
inductive Derives : Tokens → Tree → Prop
  | simple {w : String} {o : Nat} {t : DataType} : IsKeyword w (.simple t) →
      Derives [⟨.ident w, o⟩] (.simple o t)
  | decimal {w : String} {o o₁ o₂ o₃ o₄ o₅ : Nat} {p s : UInt32} : IsKeyword w .decimal →
      Derives [⟨.ident w, o⟩, ⟨.lparen, o₁⟩, ⟨.number p, o₂⟩, ⟨.comma, o₃⟩, ⟨.number s, o₄⟩,
        ⟨.rparen, o₅⟩] (.decimal o p s)
  | array {w : String} {o o₁ o₂ : Nat} {ts : Tokens} {x : Tree} :
      IsKeyword w (.container .array) → Derives ts x →
      Derives (⟨.ident w, o⟩ :: ⟨.lt, o₁⟩ :: (ts ++ [⟨.gt, o₂⟩])) (.array o x)
  | map {w : String} {o o₁ o₂ o₃ : Nat} {ks vs : Tokens} {k v : Tree} :
      IsKeyword w (.container .map) → Derives ks k → Derives vs v →
      Derives (⟨.ident w, o⟩ :: ⟨.lt, o₁⟩ :: (ks ++ ⟨.comma, o₂⟩ :: (vs ++ [⟨.gt, o₃⟩])))
        (.map o k v)
  | emptyStruct {w : String} {o o₁ o₂ : Nat} : IsKeyword w (.container .struct) →
      Derives [⟨.ident w, o⟩, ⟨.lt, o₁⟩, ⟨.gt, o₂⟩] (.struct o [])
  | struct {w : String} {o o₁ o₂ : Nat} {ts : Tokens} {fs : List FieldTree} :
      IsKeyword w (.container .struct) → DerivesFields ts fs →
      Derives (⟨.ident w, o⟩ :: ⟨.lt, o₁⟩ :: (ts ++ [⟨.gt, o₂⟩])) (.struct o fs)

/-- The tokens are one or more fields with these trees. -/
inductive DerivesFields : Tokens → List FieldTree → Prop
  | one {k : Token} {name : String} {o : Nat} {ts : Tokens} {x : Tree} :
      k.name? = some name → Derives ts x → DerivesFields (⟨k, o⟩ :: ts) [⟨name, o, x⟩]
  | cons {k : Token} {name : String} {o o₁ : Nat} {ts us : Tokens} {x : Tree}
      {fs : List FieldTree} : k.name? = some name → Derives ts x → DerivesFields us fs →
      DerivesFields (⟨k, o⟩ :: (ts ++ ⟨.comma, o₁⟩ :: us)) (⟨name, o, x⟩ :: fs)

end

/-- The tokens mark the role of a column behind its type. -/
inductive DerivesRole : Tokens → Role → Prop
  | value : DerivesRole [] .value
  | key {w : String} {o : Nat} : SameButCase w "KEY" → DerivesRole [⟨.ident w, o⟩] .key

/-- The tokens are one or more columns with these trees. -/
inductive DerivesColumns : Tokens → List ColumnTree → Prop
  | one {k : Token} {name : String} {o : Nat} {ts ms : Tokens} {x : Tree} {role : Role} :
      k.name? = some name → Derives ts x → DerivesRole ms role →
      DerivesColumns (⟨k, o⟩ :: (ts ++ ms)) [⟨name, x, role⟩]
  | cons {k : Token} {name : String} {o o₁ : Nat} {ts ms us : Tokens} {x : Tree} {role : Role}
      {cs : List ColumnTree} : k.name? = some name → Derives ts x → DerivesRole ms role →
      DerivesColumns us cs →
      DerivesColumns (⟨k, o⟩ :: (ts ++ (ms ++ ⟨.comma, o₁⟩ :: us))) (⟨name, x, role⟩ :: cs)

/-- The tokens are a column list, which may be empty. -/
inductive DerivesSchema : Tokens → List ColumnTree → Prop
  | empty : DerivesSchema [] []
  | columns {ts : Tokens} {cs : List ColumnTree} : DerivesColumns ts cs → DerivesSchema ts cs

/-! ## The meaning of a tree -/

mutual

/-- The type that a tree stands for. There is one if every decimal has possible bounds and no STRUCT
has two fields of one name. -/
def Tree.type? : Tree → Option DataType
  | .simple _ t => some t
  | .decimal _ p s =>
    if hp : 1 ≤ p then if hs : s ≤ p then some (.decimal ⟨p, s, hp, hs⟩) else none else none
  | .array _ x => x.type?.map .array
  | .map _ k v => do return .map (← k.type?) (← v.type?)
  | .struct _ fs => do
    let fields ← fieldTypes? fs
    if (fields.map Field.name).Nodup then some (.struct fields) else none

/-- The fields that trees stand for, whatever their names are. -/
def fieldTypes? : List FieldTree → Option (List Field)
  | [] => some []
  | ⟨name, _, x⟩ :: fs => do return ⟨name, ← x.type?⟩ :: (← fieldTypes? fs)

end

/-- The columns that trees stand for, each with its role. -/
def columnTypes? : List ColumnTree → Option (List (Role × Field))
  | [] => some []
  | ⟨name, x, role⟩ :: cs => do return (role, ⟨name, ← x.type?⟩) :: (← columnTypes? cs)

/-! ## How phrases start -/

/-- What the grammar asks of a type that starts with a keyword. -/
def Keyword.Heads (w : String) (ts : Tokens) (x : Tree) : Keyword → Prop
  | .simple t => items ts = [.ident w] ∧ x.type? = some t
  | .decimal => ∃ o p s, x = .decimal o p s ∧
      items ts = [.ident w, .lparen, .number p, .comma, .number s, .rparen]
  | .container .array => ∃ o us y, x = .array o y ∧ Derives us y ∧
      items ts = .ident w :: .lt :: (items us ++ [.gt])
  | .container .map => ∃ o ks vs k v, x = .map o k v ∧ Derives ks k ∧ Derives vs v ∧
      items ts = .ident w :: .lt :: (items ks ++ .comma :: (items vs ++ [.gt]))
  | .container .struct => ∃ o fs, x = .struct o fs ∧
      ((fs = [] ∧ items ts = [.ident w, .lt, .gt]) ∨
        ∃ us, DerivesFields us fs ∧ items ts = .ident w :: .lt :: (items us ++ [.gt]))

/-- The first token of a type is its keyword, which decides what follows. -/
theorem Derives.exists_heads {ts : Tokens} {x : Tree} (h : Derives ts x) :
    ∃ w kw us, IsKeyword w kw ∧ items ts = .ident w :: us ∧ kw.Heads w ts x := by
  cases h with
  | simple hw => exact ⟨_, _, _, hw, rfl, rfl, rfl⟩
  | decimal hw => exact ⟨_, _, _, hw, rfl, _, _, _, rfl, rfl⟩
  | array hw hx => exact ⟨_, _, _, hw, rfl, _, _, _, rfl, hx, by simp⟩
  | map hw hk hv => exact ⟨_, _, _, hw, rfl, _, _, _, _, _, rfl, hk, hv, by simp⟩
  | emptyStruct hw => exact ⟨_, _, _, hw, rfl, _, _, rfl, Or.inl ⟨rfl, rfl⟩⟩
  | struct hw hf => exact ⟨_, _, _, hw, rfl, _, _, rfl, Or.inr ⟨_, hf, by simp⟩⟩

theorem Derives.heads {ts : Tokens} {x : Tree} {w : String} {kw : Keyword} {r r' : List Token}
    (h : Derives ts x) (hw : IsKeyword w kw) (ht : items ts ++ r = .ident w :: r') :
    kw.Heads w ts x := by
  obtain ⟨w', kw', us, hw', hts, hh⟩ := h.exists_heads
  rw [hts, List.cons_append] at ht
  obtain ⟨hi, -⟩ := List.cons.inj ht
  obtain rfl := Token.ident.inj hi
  obtain rfl := hw.unique hw'
  exact hh

theorem DerivesFields.exists_cons {ts : Tokens} {fs : List FieldTree} (h : DerivesFields ts fs) :
    ∃ k name w us, items ts = k :: .ident w :: us ∧ k.name? = some name := by
  cases h with
  | one hk hx =>
    obtain ⟨w, kw, us, -, hts, -⟩ := hx.exists_heads
    exact ⟨_, _, w, us, by rw [items_cons, hts], hk⟩
  | cons hk hx =>
    obtain ⟨w, kw, us, -, hts, -⟩ := hx.exists_heads
    exact ⟨_, _, w, _, by rw [items_cons, items_append, hts, List.cons_append], hk⟩

theorem DerivesFields.exists_type {ts : Tokens} {fs : List FieldTree} (h : DerivesFields ts fs) :
    ∃ k us x tail, Derives us x ∧ items ts = k :: (items us ++ tail) ∧
      (tail = [] ∨ ∃ vs gs, tail = .comma :: items vs ∧ DerivesFields vs gs) := by
  cases h with
  | @one k _ _ _ _ hk hx => exact ⟨k, _, _, [], hx, by simp, Or.inl rfl⟩
  | @cons k _ _ _ _ _ _ _ hk hx hf =>
    exact ⟨k, _, _, _, hx, by simp, Or.inr ⟨_, _, rfl, hf⟩⟩

end SqlSchema.Syntax
