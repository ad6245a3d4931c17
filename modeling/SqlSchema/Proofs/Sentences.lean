import SqlSchema.Proofs.ColumnPlaces

/-!
# Sentences and their beginnings

A sentence is a list of tokens that the grammar derives, as a type or as a column list. Their places
in a text do not matter for that (`Derives.exists_of_items_eq`).

The tokens that lead to a place of a reader can always be completed: the open part of a type, then
the containers around it from the inside out (`Reached.viable`, `ColumnsReached.viable`).
-/

namespace SqlSchema.Syntax

def TypeSentence (ks : List Token) : Prop :=
  ∃ ts x, Derives ts x ∧ items ts = ks

/-- The tokens are a column list, which may be empty. -/
def SchemaSentence (ks : List Token) : Prop :=
  ∃ ts cs, DerivesSchema ts cs ∧ items ts = ks

/-- Some sentence starts with the tokens. -/
def Viable (Sentence : List Token → Prop) (ks : List Token) : Prop :=
  ∃ rest, Sentence (ks ++ rest)

/-! ## Other places -/

theorem items_eq_cons_iff {us : Tokens} {k : Token} {ks : List Token} :
    items us = k :: ks ↔ ∃ o us', us = ⟨k, o⟩ :: us' ∧ items us' = ks := by
  unfold items
  rw [List.map_eq_cons_iff]
  constructor
  · rintro ⟨⟨k, o⟩, us', rfl, rfl, hus⟩
    exact ⟨o, us', rfl, hus⟩
  · rintro ⟨o, us', rfl, hus⟩
    exact ⟨_, us', rfl, rfl, hus⟩

theorem items_eq_append_iff {us : Tokens} {ks ls : List Token} :
    items us = ks ++ ls ↔ ∃ us₁ us₂, us = us₁ ++ us₂ ∧ items us₁ = ks ∧ items us₂ = ls :=
  List.map_eq_append_iff

theorem items_eq_nil_iff {us : Tokens} : items us = [] ↔ us = [] :=
  List.map_eq_nil_iff

mutual

theorem Derives.exists_of_items_eq {ts us : Tokens} {x : Tree} (hx : Derives ts x)
    (h : items us = items ts) : ∃ y, Derives us y := by
  cases hx with
  | simple hw =>
    simp only [items_cons, items_nil, items_eq_cons_iff, items_eq_nil_iff] at h
    obtain ⟨o, _, rfl, rfl⟩ := h
    exact ⟨_, .simple hw⟩
  | decimal hw =>
    simp only [items_cons, items_nil, items_eq_cons_iff, items_eq_nil_iff] at h
    obtain ⟨o, _, rfl, o₁, _, rfl, o₂, _, rfl, o₃, _, rfl, o₄, _, rfl, o₅, _, rfl, rfl⟩ := h
    exact ⟨_, .decimal hw⟩
  | array hw hx =>
    simp only [items_cons, items_append, items_nil, items_eq_cons_iff, items_eq_append_iff,
      items_eq_nil_iff] at h
    obtain ⟨o, _, rfl, o₁, _, rfl, us', _, rfl, hus, o₂, _, rfl, rfl⟩ := h
    obtain ⟨y, hy⟩ := hx.exists_of_items_eq hus
    exact ⟨_, .array hw hy⟩
  | map hw hk hv =>
    simp only [items_cons, items_append, items_nil, items_eq_cons_iff, items_eq_append_iff,
      items_eq_nil_iff] at h
    obtain ⟨o, _, rfl, o₁, _, rfl, ks', _, rfl, hks, o₂, _, rfl, vs', _, rfl, hvs, o₃, _, rfl,
      rfl⟩ := h
    obtain ⟨k, hk'⟩ := hk.exists_of_items_eq hks
    obtain ⟨v, hv'⟩ := hv.exists_of_items_eq hvs
    exact ⟨_, .map hw hk' hv'⟩
  | emptyStruct hw =>
    simp only [items_cons, items_nil, items_eq_cons_iff, items_eq_nil_iff] at h
    obtain ⟨o, _, rfl, o₁, _, rfl, o₂, _, rfl, rfl⟩ := h
    exact ⟨_, .emptyStruct hw⟩
  | struct hw hf =>
    simp only [items_cons, items_append, items_nil, items_eq_cons_iff, items_eq_append_iff,
      items_eq_nil_iff] at h
    obtain ⟨o, _, rfl, o₁, _, rfl, us', _, rfl, hus, o₂, _, rfl, rfl⟩ := h
    obtain ⟨gs, hg⟩ := hf.exists_of_items_eq hus
    exact ⟨_, .struct hw hg⟩

theorem DerivesFields.exists_of_items_eq {ts us : Tokens} {fs : List FieldTree}
    (hf : DerivesFields ts fs) (h : items us = items ts) : ∃ gs, DerivesFields us gs := by
  cases hf with
  | one hk hx =>
    simp only [items_cons, items_eq_cons_iff] at h
    obtain ⟨o, us', rfl, hus⟩ := h
    obtain ⟨y, hy⟩ := hx.exists_of_items_eq hus
    exact ⟨_, .one hk hy⟩
  | cons hk hx hf =>
    simp only [items_cons, items_append, items_eq_cons_iff, items_eq_append_iff] at h
    obtain ⟨o, _, rfl, us', _, rfl, hus, o₁, vs', rfl, hvs⟩ := h
    obtain ⟨y, hy⟩ := hx.exists_of_items_eq hus
    obtain ⟨gs, hg⟩ := hf.exists_of_items_eq hvs
    exact ⟨_, .cons hk hy hg⟩

end

theorem DerivesRole.of_items_eq {ms ms' : Tokens} {role : Role} (hm : DerivesRole ms role)
    (h : items ms' = items ms) : DerivesRole ms' role := by
  cases hm with
  | value =>
    obtain rfl := items_eq_nil_iff.1 h
    exact .value
  | key hw =>
    simp only [items_cons, items_nil, items_eq_cons_iff, items_eq_nil_iff] at h
    obtain ⟨o, _, rfl, rfl⟩ := h
    exact .key hw

theorem DerivesColumns.exists_of_items_eq {ts us : Tokens} {cs : List ColumnTree}
    (hc : DerivesColumns ts cs) (h : items us = items ts) : ∃ ds, DerivesColumns us ds := by
  induction hc generalizing us with
  | one hk hx hm =>
    simp only [items_cons, items_append, items_eq_cons_iff, items_eq_append_iff] at h
    obtain ⟨o, _, rfl, us', ms', rfl, hus, hms⟩ := h
    obtain ⟨y, hy⟩ := hx.exists_of_items_eq hus
    exact ⟨_, .one hk hy (hm.of_items_eq hms)⟩
  | cons hk hx hm hc ih =>
    simp only [items_cons, items_append, items_eq_cons_iff, items_eq_append_iff] at h
    obtain ⟨o, _, rfl, us', _, rfl, hus, ms', _, rfl, hms, o₁, vs', rfl, hvs⟩ := h
    obtain ⟨y, hy⟩ := hx.exists_of_items_eq hus
    obtain ⟨ds, hd⟩ := ih hvs
    exact ⟨_, .cons hk hy (hm.of_items_eq hms) hd⟩

theorem TypeSentence.exists_derives {ts : Tokens} (h : TypeSentence (items ts)) :
    ∃ x, Derives ts x := by
  obtain ⟨us, x, hx, hus⟩ := h
  exact hx.exists_of_items_eq hus.symm

theorem SchemaSentence.exists_derives {ts : Tokens} (h : SchemaSentence (items ts)) :
    ∃ cs, DerivesSchema ts cs := by
  obtain ⟨us, cs, hc, hus⟩ := h
  cases hc with
  | empty =>
    obtain rfl := items_eq_nil_iff.1 hus.symm
    exact ⟨_, .empty⟩
  | columns hc =>
    obtain ⟨ds, hd⟩ := hc.exists_of_items_eq hus.symm
    exact ⟨_, .columns hd⟩

/-! ## Completing a type -/

theorem derives_integer : Derives [⟨.ident "INT", 0⟩] (.simple 0 .integer) :=
  .simple TypeWord.int.isKeyword

/-- A type inside open containers is completed by closing them from the inside out. -/
theorem Opened.exists_closing {ts us : Tokens} {outer : List Frame} {x : Tree}
    (ho : Opened ts outer) (hx : Derives us x) : ∃ rest y, Derives (ts ++ (us ++ rest)) y := by
  induction ho generalizing us x with
  | none => exact ⟨[], x, by simpa using hx⟩
  | @item w o o₁ ts outer hw ho ih =>
    have harray : Derives (⟨.ident w, o⟩ :: ⟨.lt, o₁⟩ :: (us ++ [⟨.gt, 0⟩])) (.array o x) :=
      .array hw hx
    obtain ⟨rest, y, hy⟩ := ih harray
    exact ⟨⟨.gt, 0⟩ :: rest, y, by simpa using hy⟩
  | @mapKey w o o₁ ts outer hw ho ih =>
    have hmap : Derives (⟨.ident w, o⟩ :: ⟨.lt, o₁⟩ :: (us ++ ⟨.comma, 0⟩ ::
        ([⟨.ident "INT", 0⟩] ++ [⟨.gt, 0⟩]))) (.map o x (.simple 0 .integer)) :=
      .map hw hx derives_integer
    obtain ⟨rest, y, hy⟩ := ih hmap
    exact ⟨⟨.comma, 0⟩ :: ⟨.ident "INT", 0⟩ :: ⟨.gt, 0⟩ :: rest, y, by simpa using hy⟩
  | @mapValue w o o₁ o₂ ts ks k key outer hw hk ho ih =>
    have hmap : Derives (⟨.ident w, o⟩ :: ⟨.lt, o₁⟩ :: (ks ++ ⟨.comma, o₂⟩ ::
        (us ++ [⟨.gt, 0⟩]))) (.map o k x) := .map hw hk hx
    obtain ⟨rest, y, hy⟩ := ih hmap
    exact ⟨⟨.gt, 0⟩ :: rest, y, by simpa using hy⟩
  | @field w o o₁ o₂ ts vs k name earlier outer hw hb hk ho ih =>
    obtain ⟨fs, hf⟩ : ∃ fs, DerivesFields (vs ++ ⟨k, o₂⟩ :: us) fs := hb.exists_snoc hk hx
    have hstruct : Derives (⟨.ident w, o⟩ :: ⟨.lt, o₁⟩ :: (vs ++ ⟨k, o₂⟩ :: us ++ [⟨.gt, 0⟩]))
        (.struct o fs) := .struct hw hf
    obtain ⟨rest, y, hy⟩ := ih hstruct
    exact ⟨⟨.gt, 0⟩ :: rest, y, by simpa using hy⟩

/-- The open part of a type is completed first, then the containers around it. -/
theorem Opened.exists_derives {ts us more : Tokens} {outer : List Frame} {x : Tree}
    (ho : Opened ts outer) (hx : Derives (us ++ more) x) :
    ∃ rest y, Derives (ts ++ us ++ rest) y := by
  obtain ⟨rest, y, hy⟩ := ho.exists_closing hx
  exact ⟨more ++ rest, y, by simpa using hy⟩

theorem DecimalRead.exists_derives {us : Tokens} {part : DecimalPart} (hd : DecimalRead us part) :
    ∃ more x, Derives (us ++ more) x := by
  cases hd with
  | opening hw =>
    exact ⟨[⟨.lparen, 0⟩, ⟨.number 1, 0⟩, ⟨.comma, 0⟩, ⟨.number 0, 0⟩, ⟨.rparen, 0⟩], _,
      .decimal hw⟩
  | precision hw =>
    exact ⟨[⟨.number 1, 0⟩, ⟨.comma, 0⟩, ⟨.number 0, 0⟩, ⟨.rparen, 0⟩], _, .decimal hw⟩
  | comma hw => exact ⟨[⟨.comma, 0⟩, ⟨.number 0, 0⟩, ⟨.rparen, 0⟩], _, .decimal hw⟩
  | scale hw => exact ⟨[⟨.number 0, 0⟩, ⟨.rparen, 0⟩], _, .decimal hw⟩
  | closing hw => exact ⟨[⟨.rparen, 0⟩], _, .decimal hw⟩

/-- The keyword of a container is completed by its brackets and what has to stand in them. -/
theorem exists_derives_container {w : String} {c : Container}
    (hw : IsKeyword w (.container c)) (o : Nat) :
    ∃ more x, Derives ([⟨.ident w, o⟩] ++ more) x := by
  cases c with
  | array =>
    have hx : Derives ([⟨.ident w, o⟩] ++ [⟨.lt, 0⟩, ⟨.ident "INT", 0⟩, ⟨.gt, 0⟩])
        (.array o (.simple 0 .integer)) := .array hw derives_integer
    exact ⟨_, _, hx⟩
  | map =>
    have hx : Derives ([⟨.ident w, o⟩] ++ [⟨.lt, 0⟩, ⟨.ident "INT", 0⟩, ⟨.comma, 0⟩,
        ⟨.ident "INT", 0⟩, ⟨.gt, 0⟩]) (.map o (.simple 0 .integer) (.simple 0 .integer)) :=
      .map hw derives_integer derives_integer
    exact ⟨_, _, hx⟩
  | struct => exact ⟨[⟨.lt, 0⟩, ⟨.gt, 0⟩], _, .emptyStruct hw⟩

/-- Wherever a reader of types stands, the tokens before can be completed to a type. -/
theorem Reached.exists_completion {ts : Tokens} {p : TypeReader} (hp : Reached ts p) :
    ∃ rest x, Derives (ts ++ rest) x := by
  cases hp with
  | start ho =>
    obtain ⟨rest, y, hy⟩ := ho.exists_closing derives_integer
    exact ⟨_, y, hy⟩
  | decimal ho hd =>
    obtain ⟨more, x, hx⟩ := hd.exists_derives
    exact ho.exists_derives hx
  | opening ho hw =>
    obtain ⟨more, x, hx⟩ := exists_derives_container hw _
    exact ho.exists_derives hx
  | @firstField w o o₁ ts outer ho hw =>
    have hx : Derives ([⟨.ident w, o⟩, ⟨.lt, o₁⟩] ++ [⟨.gt, 0⟩]) _ := .emptyStruct hw
    exact ho.exists_derives hx
  | @nextField w o o₁ o₂ ts us fs l outer ho hw hf =>
    have hfs := FieldsBefore.behind (o := o₂) hf
    obtain ⟨gs, hg⟩ : ∃ gs, DerivesFields
        (us ++ [⟨.comma, o₂⟩] ++ ⟨.quoted "", 0⟩ :: [⟨.ident "INT", 0⟩]) gs :=
      hfs.exists_snoc rfl derives_integer
    have hx : Derives (⟨.ident w, o⟩ :: ⟨.lt, o₁⟩ :: (us ++ [⟨.comma, o₂⟩]) ++
        [⟨.quoted "", 0⟩, ⟨.ident "INT", 0⟩, ⟨.gt, 0⟩]) (.struct o gs) := by
      simpa using Derives.struct hw hg
    exact ho.exists_derives hx
  | @fieldEnd w o o₁ ts us fs l outer ho hw hf =>
    have hx : Derives (⟨.ident w, o⟩ :: ⟨.lt, o₁⟩ :: us ++ [⟨.gt, 0⟩]) (.struct o fs) :=
      .struct hw hf
    exact ho.exists_derives hx
  | @itemEnd w o o₁ ts us x t outer ho hw hx =>
    have hy : Derives (⟨.ident w, o⟩ :: ⟨.lt, o₁⟩ :: us ++ [⟨.gt, 0⟩]) (.array o x) :=
      .array hw hx
    exact ho.exists_derives hy
  | @keyEnd w o o₁ ts us x t outer ho hw hx =>
    have hy : Derives (⟨.ident w, o⟩ :: ⟨.lt, o₁⟩ :: us ++
        [⟨.comma, 0⟩, ⟨.ident "INT", 0⟩, ⟨.gt, 0⟩]) (.map o x (.simple 0 .integer)) :=
      .map hw hx derives_integer
    exact ho.exists_derives hy
  | @valueEnd w o o₁ o₂ ts ks vs k v s t outer ho hw hk hv =>
    have hy : Derives (⟨.ident w, o⟩ :: ⟨.lt, o₁⟩ :: (ks ++ ⟨.comma, o₂⟩ :: vs) ++
        [⟨.gt, 0⟩]) (.map o k v) := by
      simpa using Derives.map hw hk hv
    exact ho.exists_derives hy
  | done hx => exact ⟨[], _, by simpa using hx⟩

theorem Reached.viable {ts : Tokens} {p : TypeReader} (hp : Reached ts p) :
    Viable TypeSentence (items ts) := by
  obtain ⟨rest, x, hx⟩ := hp.exists_completion
  exact ⟨items rest, _, x, hx, items_append ts rest⟩

/-! ## Completing a column list -/

/-- Wherever a reader of schemas stands, the tokens before can be completed to a column list. -/
theorem ColumnsReached.exists_completion {ts : Tokens} {r : SchemaReader}
    (hr : ColumnsReached ts r) : ∃ rest cs, DerivesSchema (ts ++ rest) cs := by
  cases hr with
  | start => exact ⟨[], _, .empty⟩
  | nextColumn hb =>
    obtain ⟨cs, hc⟩ : ∃ cs, DerivesColumns
        (ts ++ ⟨.quoted "", 0⟩ :: ([⟨.ident "INT", 0⟩] ++ [])) cs :=
      hb.exists_snoc rfl derives_integer .value
    exact ⟨_, cs, .columns hc⟩
  | @columnType ts us k name name' o s p hb hk hp =>
    obtain ⟨rest, x, hx⟩ := hp.exists_completion
    obtain ⟨cs, hc⟩ : ∃ cs, DerivesColumns (ts ++ ⟨k, o⟩ :: (us ++ rest ++ [])) cs :=
      hb.exists_snoc hk hx .value
    exact ⟨rest, cs, .columns (by simpa using hc)⟩
  | @roleOrEnd ts us k name o x s f hb hk hx =>
    obtain ⟨cs, hc⟩ : ∃ cs, DerivesColumns (ts ++ ⟨k, o⟩ :: (us ++ [])) cs :=
      hb.exists_snoc hk hx .value
    exact ⟨[], cs, .columns (by simpa using hc)⟩
  | columnEnd hc => exact ⟨[], _, .columns (by simpa using hc)⟩

theorem ColumnsReached.viable {ts : Tokens} {r : SchemaReader} (hr : ColumnsReached ts r) :
    Viable SchemaSentence (items ts) := by
  obtain ⟨rest, cs, hc⟩ := hr.exists_completion
  exact ⟨items rest, _, cs, hc, items_append ts rest⟩

end SqlSchema.Syntax
