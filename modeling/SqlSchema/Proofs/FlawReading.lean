import SqlSchema.Proofs.Flaws

/-!
# Reading up to a flaw

A type with a fault other than its nesting is read up to the last token of a flaw, and the flaw is
what the fault tells (`Derives.breaksWith`). Wherever reading gets to the last token of a flaw it
fails there, and with nothing that starts before the flaw (`IsFlaw.exists_error`).
-/

namespace SqlSchema.Syntax

open Log

/-! ## Passing tokens, and breaking at one -/

section

variable {π β : Type} {read : π → Tokens → Except ParseError β} {p q r : π} {ts us : Tokens}
  {e : ParseError}

/-- Reading goes through the tokens from one place to another, whatever follows. -/
def ReadsTo (read : π → Tokens → Except ParseError β) (p : π) (ts : Tokens) (q : π) : Prop :=
  ∀ rest, read p (ts ++ rest) = read q rest

theorem ReadsTo.append (h : ReadsTo read p ts q) (h' : ReadsTo read q us r) :
    ReadsTo read p (ts ++ us) r := by
  intro rest
  rw [List.append_assoc, h, h']

/-- Reading goes up to the last token of a flaw, which the error tells about. The tokens `lead`
stand before. -/
def BreaksWith (read : π → Tokens → Except ParseError β) (lead : Tokens) (p : π) (ts : Tokens)
    (e : ParseError) : Prop :=
  ∃ init k after flaw q, ts = init ++ k :: after ∧ EndsFlawed (lead ++ (init ++ [k])) flaw ∧
    flaw.Reports e ∧ ReadsTo read p init q

namespace BreaksWith

theorem append {lead : Tokens} (h : BreaksWith read lead p ts e) (us : Tokens) :
    BreaksWith read lead p (ts ++ us) e := by
  obtain ⟨init, k, after, flaw, q, rfl, hf, hr, hread⟩ := h
  exact ⟨init, k, after ++ us, flaw, q, by simp, hf, hr, hread⟩

theorem behind {lead : Tokens} (hus : ReadsTo read p us q)
    (h : BreaksWith read (lead ++ us) q ts e) : BreaksWith read lead p (us ++ ts) e := by
  obtain ⟨init, k, after, flaw, r, rfl, hf, hr, hread⟩ := h
  refine ⟨us ++ init, k, after, flaw, r, by simp, ?_, hr, hus.append hread⟩
  simpa using hf

theorem lead (h : BreaksWith read [] p ts e) (lead : Tokens) : BreaksWith read lead p ts e := by
  obtain ⟨init, k, after, flaw, q, rfl, hf, hr, hread⟩ := h
  exact ⟨init, k, after, flaw, q, rfl, hf.append_left lead, hr, hread⟩

theorem prepend {lead : Tokens} (hus : ReadsTo read p us q) (h : BreaksWith read [] q ts e) :
    BreaksWith read lead p (us ++ ts) e :=
  behind hus (h.lead _)

theorem exists_token {c : TypeError} {o : Nat} (h : BreaksWith read [] p ts (.invalid c o)) :
    ∃ k ∈ ts, k.offset = o := by
  obtain ⟨init, k, after, flaw, q, rfl, ⟨us, hs, hf⟩, hr, -⟩ := h
  obtain ⟨c', hc⟩ := hr.exists_invalid
  obtain ⟨j, hj, ho⟩ := hf.exists_token
  refine ⟨j, ?_, ho.trans (ParseError.invalid.inj hc).2.symm⟩
  have hmem := hs.subset hj
  simp only [List.nil_append, List.mem_append, List.mem_cons, List.not_mem_nil, or_false] at hmem
  rcases hmem with hmem | rfl
  · exact List.mem_append_left _ hmem
  · simp

end BreaksWith

end

/-! ## The parts of a type -/

section

variable {β : Type} {read : TypeReader → Tokens → Except ParseError β} {outer : List Frame}
  {w : String} {o o₁ : Nat}

theorem StepsThrough.readsTo_enter (h : StepsThrough read) {c : Container}
    (hw : IsKeyword w (.container c)) (ho : outer.length < nestingLimit) (o o₁ : Nat) :
    ReadsTo read (.start outer) [⟨.ident w, o⟩, ⟨.lt, o₁⟩] (.enter outer c) := by
  intro rest
  rw [List.cons_append, h.read_keyword hw, if_pos ho]
  exact h.read_cons rest (by simp) rfl

theorem StepsThrough.readsTo_closing (h : StepsThrough read) {o₂ o₃ o₄ : Nat} {p s : UInt32}
    (hw : IsKeyword w .decimal) (ho : outer.length < nestingLimit) :
    ReadsTo read (.start outer) [⟨.ident w, o⟩, ⟨.lparen, o₁⟩, ⟨.number p, o₂⟩, ⟨.comma, o₃⟩,
      ⟨.number s, o₄⟩] (.decimal o (.closing p s) outer) := by
  intro rest
  rw [List.cons_append, h.read_keyword hw, if_pos ho]
  refine (h.read_cons _ (by simp) rfl).trans ?_
  exact (h.read_cons _ (by simp) rfl).trans
    ((h.read_cons _ (by simp) rfl).trans (h.read_cons _ (by simp) rfl))

theorem StepsThrough.readsTo_step (h : StepsThrough read) {p q : TypeReader} {k : Token}
    (hp : ∀ t, p ≠ .done t) (hs : (p.step k o).outcome = .ok q) : ReadsTo read p [⟨k, o⟩] q :=
  fun rest => h.read_cons rest hp hs

theorem FieldStart.readsTo_name (h : StepsThrough read) {l : FieldList} {p : TypeReader}
    (hp : FieldStart outer l p) {k : Token} {name : String} (hk : k.name? = some name) :
    ReadsTo read p [⟨k, o⟩] (.start (.field l name o :: outer)) :=
  fun rest => hp.read_name h hk o rest

/-- Reading goes through a type without a fault to the place behind it. -/
theorem Derives.readsTo (h : StepsThrough read) {ts : Tokens} {x : Tree} {t : DataType}
    {q : TypeReader} (hx : Derives ts x) (outer : List Frame)
    (ht : x.resolve outer.length = .ok t)
    (hq : (TypeReader.complete t outer).outcome = .ok q) : ReadsTo read (.start outer) ts q := by
  intro rest
  rw [hx.read_eq h, ht]
  show (TypeReader.complete t outer).outcome >>= _ = _
  rw [hq]
  rfl

theorem DerivesFields.readsTo (h : StepsThrough read) {ts : Tokens} {fs : List FieldTree}
    {l l' : FieldList} {p : TypeReader} (hf : DerivesFields ts fs) (hp : FieldStart outer l p)
    (hl : resolveFields (outer.length + 1) l fs = .ok l') :
    ReadsTo read p ts (.fieldEnd l' outer) := by
  intro rest
  rw [hf.read_eq h hp, hl]
  rfl

theorem Derives.readsTo_mapValue (h : StepsThrough read) {ts : Tokens} {x : Tree} {t : DataType}
    (hx : Derives ts x) (ht : x.resolve (outer.length + 1) = .ok t) :
    ReadsTo read (.start (.mapKey :: outer)) (ts ++ [⟨.comma, o⟩])
      (.start (.mapValue t :: outer)) :=
  (hx.readsTo h (.mapKey :: outer) ht rfl).append (h.readsTo_step (by simp) rfl)

theorem Derives.readsTo_field (h : StepsThrough read) {ts : Tokens} {x : Tree} {t : DataType}
    {l l' : FieldList} {p : TypeReader} {k : Token} {name : String} (hx : Derives ts x)
    (hp : FieldStart outer l p) (hk : k.name? = some name)
    (ht : x.resolve (outer.length + 1) = .ok t) (hadd : (l.add ⟨name, t⟩).outcome = .ok l')
    (o o₁ : Nat) :
    ReadsTo read p (⟨k, o⟩ :: (ts ++ [⟨.comma, o₁⟩])) (.nextField l' outer) := by
  have hq : (TypeReader.complete t (.field l name o :: outer)).outcome =
      .ok (.fieldEnd l' outer) := by
    rw [TypeReader.complete, Logged.outcome_bind, Logged.outcome_mapError, hadd]
    rfl
  have htype := hx.readsTo h (.field l name o :: outer) ht hq
  exact (hp.readsTo_name h hk).append (htype.append (h.readsTo_step (by simp) rfl))

theorem Derives.exists_last (h : StepsThrough read) {ts : Tokens} {x : Tree} {t : DataType}
    (hx : Derives ts x) (outer : List Frame) (ht : x.resolve outer.length = .ok t) :
    ∃ init k q, ts = init ++ [k] ∧ ReadsTo read (.start outer) init q := by
  rw [Tree.resolve.eq_def] at ht
  split at ht
  · next ho =>
    cases hx with
    | simple hw => exact ⟨[], _, _, rfl, fun rest => rfl⟩
    | decimal hw => exact ⟨[_, _, _, _, _], _, _, rfl, h.readsTo_closing hw ho⟩
    | array hw hx =>
      obtain ⟨a, ha, -⟩ := map_eq_ok_iff.1 ht
      have hitem := hx.readsTo h (.item :: outer) ha rfl
      exact ⟨_, _, _, rfl, (h.readsTo_enter hw ho _ _).append hitem⟩
    | @map w o o₁ o₂ o₃ ks vs k v hw hk hv =>
      obtain ⟨a, ha, ht⟩ := bind_eq_ok_iff.1 ht
      obtain ⟨b, hb, -⟩ := bind_eq_ok_iff.1 ht
      have hkey := hk.readsTo_mapValue (o := o₂) h ha
      have hvalue := hv.readsTo h (.mapValue a :: outer) hb rfl
      have hread := (h.readsTo_enter hw ho o o₁).append (hkey.append hvalue)
      exact ⟨_, ⟨.gt, o₃⟩, _, by simp, hread⟩
    | emptyStruct hw => exact ⟨[_, _], _, _, rfl, h.readsTo_enter hw ho _ _⟩
    | struct hw hf =>
      obtain ⟨l, hl, -⟩ := map_eq_ok_iff.1 ht
      exact ⟨_, _, _, rfl, (h.readsTo_enter hw ho _ _).append (hf.readsTo h .first hl)⟩
  · cases ht

/-! ## A fault breaks with a flaw -/

/-- A field breaks with a flaw of its type or with its name. -/
theorem Derives.breaksWith_field (h : StepsThrough read) {us ts : Tokens} {fs : List FieldTree}
    {l : FieldList} {p : TypeReader} {k : Token} {name : String} {o₂ : Nat} {x : Tree}
    {e : ParseError} (hw : IsKeyword w (.container .struct)) (hb : EarlierFields us fs)
    (hl : fieldTypes? fs = some l.fields) (hp : FieldStart outer l p) (hk : k.name? = some name)
    (hx : Derives ts x)
    (hbreaks : x.resolve (outer.length + 1) = .error e →
      BreaksWith read [] (.start (.field l name o₂ :: outer)) ts e)
    (he : (x.resolve (outer.length + 1) >>= fun t =>
      (l.add ⟨name, t⟩).outcome.mapError (.invalid · o₂)) = .error e) :
    BreaksWith read (⟨.ident w, o⟩ :: ⟨.lt, o₁⟩ :: us) p (⟨k, o₂⟩ :: ts) e := by
  have hname := hp.readsTo_name (o := o₂) h hk
  rcases bind_eq_error_iff.1 he with he | ⟨t, ht, he⟩
  · exact .behind hname ((hbreaks he).lead _)
  · obtain ⟨c, hadd, rfl⟩ := mapError_eq_error_iff.1 he
    obtain ⟨init, j, q, rfl, hlast⟩ :=
      hx.exists_last h (.field l name o₂ :: outer) ht
    obtain ⟨hmem, hr⟩ := reports_of_add_eq_error hl (x.resolve_eq_ok_iff.1 ht).1 hadd o₂
    refine ⟨⟨k, o₂⟩ :: init, j, [], _, q, rfl, ⟨_, List.suffix_rfl, ?_⟩, hr, hname.append hlast⟩
    exact .repeated hw hb hk hx hmem

mutual

/-- A type with a fault other than its nesting breaks with a flaw. -/
theorem Derives.breaksWith (h : StepsThrough read) {ts : Tokens} {x : Tree} {c : TypeError}
    {i : Nat} (hx : Derives ts x) (outer : List Frame)
    (he : x.resolve outer.length = .error (.invalid c i)) :
    BreaksWith read [] (.start outer) ts (.invalid c i) := by
  rw [Tree.resolve.eq_def] at he
  split at he
  · next ho =>
    cases hx with
    | simple hw => cases he
    | @decimal w o o₁ o₂ o₃ o₄ o₅ p s hw =>
      obtain ⟨c', hc, heq⟩ := mapError_eq_error_iff.1 (map_eq_error_iff.1 he)
      obtain ⟨hbounds, rfl⟩ := ofBounds_eq_error_iff.1 hc
      refine ⟨[_, _, _, _, _], _, [], .bounds o p s, _, rfl, ⟨_, List.suffix_rfl, ?_⟩, heq.symm,
        h.readsTo_closing hw ho⟩
      exact .bounds (.decimal hw) hbounds
    | array hw hx =>
      have hitem := hx.breaksWith h (.item :: outer) (map_eq_error_iff.1 he)
      exact .prepend (h.readsTo_enter hw ho _ _) (hitem.append _)
    | @map w o o₁ o₂ o₃ ks vs k v hw hk hv =>
      rcases bind_eq_error_iff.1 he with he | ⟨a, ha, he⟩
      · have hkey := hk.breaksWith h (.mapKey :: outer) he
        exact .prepend (h.readsTo_enter hw ho _ _) (hkey.append _)
      · rcases bind_eq_error_iff.1 he with he | ⟨b, -, he⟩
        · have hkey := hk.readsTo_mapValue (o := o₂) h ha
          have hvalue := hv.breaksWith h (.mapValue a :: outer) he
          have hafter : BreaksWith read [] _ _ _ := .prepend hkey (hvalue.append [⟨.gt, o₃⟩])
          rw [List.append_assoc] at hafter
          exact .prepend (h.readsTo_enter hw ho _ _) hafter
        · cases he
    | emptyStruct hw => cases he
    | struct hw hf =>
      refine .behind (h.readsTo_enter hw ho _ _) (.append ?_ _)
      exact hf.breaksWith h hw .first rfl .first (map_eq_error_iff.1 he)
  · cases he

theorem DerivesFields.breaksWith (h : StepsThrough read) {us ts : Tokens} {gs fs : List FieldTree}
    {l : FieldList} {p : TypeReader} {w : String} {o o₁ : Nat} {outer : List Frame} {c : TypeError}
    {i : Nat} (hf : DerivesFields ts fs) (hw : IsKeyword w (.container .struct))
    (hb : EarlierFields us gs) (hl : fieldTypes? gs = some l.fields) (hp : FieldStart outer l p)
    (he : resolveFields (outer.length + 1) l fs = .error (.invalid c i)) :
    BreaksWith read (⟨.ident w, o⟩ :: ⟨.lt, o₁⟩ :: us) p ts (.invalid c i) := by
  cases hf with
  | @one k name o₂ ts x hk hx =>
    rw [resolveFields, ← bind_assoc] at he
    rcases bind_eq_error_iff.1 he with he | ⟨l', -, he⟩
    · exact hx.breaksWith_field h hw hb hl hp hk (hx.breaksWith h (.field l name o₂ :: outer)) he
    · cases he
  | @cons k name o₂ o₃ ts vs x fs hk hx hf =>
    rw [resolveFields, ← bind_assoc] at he
    rcases bind_eq_error_iff.1 he with he | ⟨l', hadd, he⟩
    · have htype := hx.breaksWith h (c := c) (i := i) (.field l name o₂ :: outer)
      exact (hx.breaksWith_field h hw hb hl hp hk htype he).append _
    · obtain ⟨t, ht, hadd⟩ := bind_eq_ok_iff.1 hadd
      have hread := hx.readsTo_field h hp hk ht (mapError_eq_ok_iff.1 hadd) o₂ o₃
      have hl' := fieldTypes?_snoc name o₂ hl (x.resolve_eq_ok_iff.1 ht).1
      rw [← FieldList.fields_of_add (mapError_eq_ok_iff.1 hadd)] at hl'
      have hb' := hb.snoc hk hx o₂ o₃
      have hall : BreaksWith read (⟨.ident w, o⟩ :: ⟨.lt, o₁⟩ :: us) p _ _ :=
        .behind hread (hf.breaksWith h hw hb' hl' (.next l') he)
      rw [List.cons_append, List.append_assoc] at hall
      exact hall

end

/-! ## Reading fails at a flaw -/

/-- The fields before a field are read to where its name starts, unless reading fails in them. -/
theorem EarlierFields.exists_readsTo (h : StepsThrough read) {us rest : Tokens}
    {fs : List FieldTree} {b : β} (hb : EarlierFields us fs) (ho : outer.length < nestingLimit)
    (hok : read (.firstField outer) (us ++ rest) = .ok b) :
    ∃ l p, FieldStart outer l p ∧ fieldTypes? fs = some l.fields ∧
      ReadsTo read (.firstField outer) us p := by
  cases hb with
  | first => exact ⟨.empty, _, .first, rfl, fun _ => rfl⟩
  | @behind ts fs o hf =>
    rw [List.append_assoc, hf.read_eq h .first] at hok
    obtain ⟨l, hl, -⟩ := bind_eq_ok_iff.1 hok
    obtain ⟨⟨gs, hgs, heq⟩, -⟩ := (resolveFields_eq_ok_iff ho fs).1 hl
    rw [FieldList.empty, List.nil_append] at heq
    rw [← heq] at hgs
    have hcomma := h.readsTo_step (o := o) (k := .comma) (p := .fieldEnd l outer) (by simp) rfl
    exact ⟨l, _, .next l, hgs, (hf.readsTo h .first hl).append hcomma⟩

/-- Reading that gets to the end of a flaw fails there: with what the flaw tells, or with a fault
that starts behind its start. -/
theorem IsFlaw.exists_error (h : StepsThrough read) {init : Tokens} {k : Located Token}
    {flaw : Flaw} {b : β} (hf : IsFlaw (init ++ [k]) flaw)
    (ho : (init ++ [k]).Pairwise fun j k => j.offset < k.offset)
    (hok : read (.start outer) init = .ok b) :
    ∃ e, read (.start outer) (init ++ [k]) = .error e ∧
      (flaw.Reports e ∨ ∀ c o, e = .invalid c o → flaw.offset < o) := by
  generalize hts : init ++ [k] = ts at hf ho
  cases hf with
  | @bounds ts o p s hx hb =>
    rw [← List.append_nil ts, hx.read_eq h, Tree.resolve]
    split
    · rw [ofBounds_eq_error_iff.2 ⟨hb, rfl⟩]
      exact ⟨_, rfl, Or.inl rfl⟩
    · exact ⟨_, rfl, Or.inr fun c o' he => nomatch he⟩
  | @repeated w o o₁ o₂ us ts fs j name x hw hb hj hx hn =>
    obtain ⟨ts', k', rfl⟩ := hx.exists_concat
    have hsplit : init ++ [k] = ⟨.ident w, o⟩ :: ⟨.lt, o₁⟩ :: (us ++ ⟨j, o₂⟩ :: ts') ++ [k'] := by
      rw [hts]
      simp
    obtain ⟨rfl, -⟩ := List.append_inj' hsplit rfl
    have hopen : outer.length < nestingLimit := by
      rw [h.read_keyword hw] at hok
      split at hok
      · next ho => exact ho
      · cases hok
    have henter := h.readsTo_enter hw hopen o o₁
    obtain ⟨l, p, hp, hl, hread⟩ := hb.exists_readsTo h hopen ((henter _).symm.trans hok)
    have hall : read (.start outer)
          (⟨.ident w, o⟩ :: ⟨.lt, o₁⟩ :: (us ++ ⟨j, o₂⟩ :: (ts' ++ [k']))) =
        x.resolve (outer.length + 1) >>= completed read (.field l name o₂ :: outer) [] := by
      have hfield := hx.read_eq h (.field l name o₂ :: outer) []
      rw [List.append_nil, ← hp.read_name h hj o₂, ← hread] at hfield
      exact (henter _).trans hfield
    rw [hall]
    cases hr : x.resolve (outer.length + 1) with
    | ok t =>
      obtain ⟨c, hc⟩ := exists_error_of_mem hl hn t
      obtain ⟨-, hreports⟩ := reports_of_add_eq_error hl (x.resolve_eq_ok_iff.1 hr).1 hc o₂
      refine ⟨.invalid c o₂, ?_, Or.inl hreports⟩
      show completed read (.field l name o₂ :: outer) [] t = _
      rw [completed_field, hc]
      rfl
    | error e =>
      refine ⟨e, rfl, Or.inr ?_⟩
      rintro c o' rfl
      obtain ⟨k, hk, rfl⟩ := (hx.breaksWith h (.field l name o₂ :: outer) hr).exists_token
      rw [List.pairwise_cons, List.pairwise_cons, List.pairwise_append, List.pairwise_cons] at ho
      exact ho.2.2.2.1.1 k hk

end

end SqlSchema.Syntax
