import SqlSchema.Proofs.Resolution

/-!
# Reading the tokens of a type

`Tree.resolve` says what a syntax tree comes to: its type, or the first fault in the order in which
a text is read. A reader that stands where a type starts reads the tokens of a derived type to just
that (`Derives.read_eq`), whatever is open around the type and whatever follows it.
-/

namespace SqlSchema.Syntax

open Log

/-! ## Steps -/

/-- Reading goes token by token as long as the outermost type is not complete. -/
def StepsThrough {β : Type} (read : TypeReader → Tokens → Except ParseError β) : Prop :=
  ∀ (p : TypeReader) (k : Located Token) (ts : Tokens), (∀ t, p ≠ .done t) →
    read p (k :: ts) = (p.step k.item k.offset).outcome >>= fun q => read q ts

namespace StepsThrough

variable {β : Type} {read : TypeReader → Tokens → Except ParseError β} (h : StepsThrough read)

include h

theorem read_cons {p q : TypeReader} {k : Token} {o : Nat} (ts : Tokens) (hp : ∀ t, p ≠ .done t)
    (hs : (p.step k o).outcome = .ok q) : read p (⟨k, o⟩ :: ts) = read q ts := by
  rw [h p _ ts hp, hs]
  rfl

theorem read_keyword {w : String} {kw : Keyword} (hw : IsKeyword w kw) (o : Nat)
    (outer : List Frame) (ts : Tokens) :
    read (.start outer) (⟨.ident w, o⟩ :: ts) =
      if outer.length < nestingLimit then
        (match kw with
          | .simple t => (TypeReader.complete t outer).outcome
          | .decimal => .ok (.decimal o .opening outer)
          | .container c => .ok (.opening c outer)) >>= fun q => read q ts
      else .error (.tooDeep o) := by
  rw [h _ _ _ (by simp)]
  simp only [TypeReader.step]
  split
  · simp only [TypeReader.begin, keyword?_eq_some_iff.2 hw]
    cases kw <;> rfl
  · rfl

end StepsThrough

/-- The places where the name of a field starts, behind other fields. -/
inductive FieldStart (outer : List Frame) : FieldList → TypeReader → Prop
  | first : FieldStart outer .empty (.firstField outer)
  | next (l : FieldList) : FieldStart outer l (.nextField l outer)

theorem FieldStart.read_name {β : Type} {read : TypeReader → Tokens → Except ParseError β}
    (h : StepsThrough read) {outer : List Frame} {l : FieldList} {p : TypeReader}
    (hp : FieldStart outer l p) {k : Token} {name : String} (hk : k.name? = some name) (o : Nat)
    (ts : Tokens) : read p (⟨k, o⟩ :: ts) = read (.start (.field l name o :: outer)) ts := by
  cases hp <;> cases k <;> simp only [Token.name?, Option.some.injEq, reduceCtorEq] at hk <;>
    subst hk <;> exact h.read_cons ts (by simp) rfl

/-! ## Derived tokens -/

section Derived

variable {β : Type} {read : TypeReader → Tokens → Except ParseError β}

/-- Reading goes on behind a complete type. -/
def completed (read : TypeReader → Tokens → Except ParseError β) (outer : List Frame)
    (rest : Tokens) (t : DataType) : Except ParseError β :=
  (TypeReader.complete t outer).outcome >>= fun q => read q rest

theorem completed_item (h : StepsThrough read) (outer : List Frame) (o : Nat) (rest : Tokens)
    (t : DataType) : completed read (.item :: outer) (⟨.gt, o⟩ :: rest) t =
      completed read outer rest (.array t) := by
  show read (.itemEnd t outer) (⟨.gt, o⟩ :: rest) = _
  rw [h _ _ _ (by simp)]
  rfl

theorem completed_mapKey (h : StepsThrough read) (outer : List Frame) (o : Nat) (rest : Tokens)
    (k : DataType) : completed read (.mapKey :: outer) (⟨.comma, o⟩ :: rest) k =
      read (.start (.mapValue k :: outer)) rest :=
  h.read_cons rest (by simp) rfl

theorem completed_mapValue (h : StepsThrough read) (outer : List Frame) (o : Nat) (rest : Tokens)
    (k v : DataType) : completed read (.mapValue k :: outer) (⟨.gt, o⟩ :: rest) v =
      completed read outer rest (.map k v) := by
  show read (.valueEnd k v outer) (⟨.gt, o⟩ :: rest) = _
  rw [h _ _ _ (by simp)]
  rfl

theorem completed_field (outer : List Frame) (rest : Tokens) (l : FieldList) (name : String)
    (o : Nat) (t : DataType) : completed read (.field l name o :: outer) rest t =
      (l.add ⟨name, t⟩).outcome.mapError (.invalid · o) >>= fun l =>
        read (.fieldEnd l outer) rest := by
  simp only [completed, TypeReader.complete, Logged.outcome_bind, Logged.outcome_mapError,
    bind_assoc]
  rfl

theorem read_fieldEnd_gt (h : StepsThrough read) (outer : List Frame) (o : Nat) (rest : Tokens)
    (l : FieldList) : read (.fieldEnd l outer) (⟨.gt, o⟩ :: rest) =
      completed read outer rest (.struct l.fields) := by
  rw [h _ _ _ (by simp)]
  rfl

theorem read_decimal (h : StepsThrough read) (outer : List Frame) {o o₁ o₂ o₃ o₄ o₅ : Nat}
    (p s : UInt32) (rest : Tokens) :
    read (.decimal o .opening outer) (⟨.lparen, o₁⟩ :: ⟨.number p, o₂⟩ :: ⟨.comma, o₃⟩ ::
        ⟨.number s, o₄⟩ :: ⟨.rparen, o₅⟩ :: rest) =
      (DecimalType.ofBounds p s).mapError (.invalid · o) >>= fun d =>
        completed read outer rest (.decimal d) := by
  rw [h.read_cons _ (by simp) rfl, h.read_cons _ (by simp) rfl, h.read_cons _ (by simp) rfl,
    h.read_cons _ (by simp) rfl, h _ _ _ (by simp)]
  simp [completed, TypeReader.step]

mutual

/-- Reading the tokens of a type comes to what its tree resolves to. -/
theorem Derives.read_eq (h : StepsThrough read) {ts : Tokens} {x : Tree} (hx : Derives ts x)
    (outer : List Frame) (rest : Tokens) :
    read (.start outer) (ts ++ rest) =
      x.resolve outer.length >>= completed read outer rest := by
  cases hx with
  | simple hw =>
    rw [List.cons_append, h.read_keyword hw, Tree.resolve]
    split <;> rfl
  | @decimal w o o₁ o₂ o₃ o₄ o₅ p s hw =>
    rw [List.cons_append, h.read_keyword hw, Tree.resolve]
    split
    · refine (read_decimal h outer p s rest).trans ?_
      cases DecimalType.ofBounds p s <;> rfl
    · rfl
  | @array w o o₁ o₂ ts x hw hx =>
    rw [List.cons_append, h.read_keyword hw, Tree.resolve]
    split
    · have hopen : read (.opening .array outer) (⟨.lt, o₁⟩ :: (ts ++ [⟨.gt, o₂⟩] ++ rest)) =
          read (.start (.item :: outer)) (ts ++ ⟨.gt, o₂⟩ :: rest) := by
        rw [h.read_cons _ (by simp) rfl, List.append_assoc]
        rfl
      refine hopen.trans ?_
      rw [hx.read_eq h]
      show x.resolve (outer.length + 1) >>= _ = _
      cases x.resolve (outer.length + 1) with
      | error e => rfl
      | ok t => exact completed_item h outer o₂ rest t
    · rfl
  | @map w o o₁ o₂ o₃ ks vs k v hw hk hv =>
    rw [List.cons_append, h.read_keyword hw, Tree.resolve]
    split
    · have hopen : read (.opening .map outer)
            (⟨.lt, o₁⟩ :: (ks ++ ⟨.comma, o₂⟩ :: (vs ++ [⟨.gt, o₃⟩]) ++ rest)) =
          read (.start (.mapKey :: outer)) (ks ++ ⟨.comma, o₂⟩ :: (vs ++ ⟨.gt, o₃⟩ :: rest)) := by
        rw [h.read_cons _ (by simp) rfl, List.append_assoc, List.cons_append, List.append_assoc]
        rfl
      refine hopen.trans ?_
      rw [hk.read_eq h]
      simp only [bind_assoc, pure_bind]
      refine bind_congr fun k => ?_
      rw [completed_mapKey h, hv.read_eq h]
      exact bind_congr fun v => completed_mapValue h outer o₃ rest k v
    · rfl
  | @emptyStruct w o o₁ o₂ hw =>
    rw [List.cons_append, h.read_keyword hw, Tree.resolve]
    split
    · have hopen : read (.opening .struct outer) (⟨.lt, o₁⟩ :: ⟨.gt, o₂⟩ :: rest) =
          completed read outer rest (.struct []) := by
        rw [h.read_cons _ (by simp) rfl, h _ _ _ (by simp [TypeReader.enter])]
        rfl
      exact hopen
    · rfl
  | @struct w o o₁ o₂ ts fs hw hf =>
    rw [List.cons_append, h.read_keyword hw, Tree.resolve]
    split
    · have hopen : read (.opening .struct outer) (⟨.lt, o₁⟩ :: (ts ++ [⟨.gt, o₂⟩] ++ rest)) =
          read (.firstField outer) (ts ++ ⟨.gt, o₂⟩ :: rest) := by
        rw [h.read_cons _ (by simp) rfl, List.append_assoc]
        rfl
      refine hopen.trans ?_
      rw [hf.read_eq h .first]
      cases resolveFields (outer.length + 1) .empty fs with
      | error e => rfl
      | ok l => exact read_fieldEnd_gt h outer o₂ rest l
    · rfl

theorem DerivesFields.read_eq (h : StepsThrough read) {ts : Tokens} {fs : List FieldTree}
    (hf : DerivesFields ts fs) {outer : List Frame} {l : FieldList} {p : TypeReader}
    (hp : FieldStart outer l p) (rest : Tokens) :
    read p (ts ++ rest) =
      resolveFields (outer.length + 1) l fs >>= fun l => read (.fieldEnd l outer) rest := by
  cases hf with
  | @one k name o ts x hk hx =>
    rw [List.cons_append, hp.read_name h hk, hx.read_eq h, resolveFields]
    simp only [bind_assoc]
    refine bind_congr fun t => ?_
    rw [completed_field]
    rfl
  | @cons k name o o₁ ts us x fs hk hx hf =>
    rw [List.cons_append, hp.read_name h hk, List.append_assoc, hx.read_eq h, resolveFields]
    simp only [bind_assoc]
    refine bind_congr fun t => ?_
    rw [completed_field]
    refine bind_congr fun l => ?_
    rw [List.cons_append, h.read_cons _ (by simp) rfl]
    exact hf.read_eq h (.next l) rest

end

end Derived

/-! ## Texts -/

namespace TypeReader

/-- What reading comes to when the text ends behind some tokens. -/
def readAll (stop : Nat) (r : TypeReader) (ts : Tokens) : Except ParseError DataType :=
  (r.run ts >>= fun place => place.finish stop).outcome

theorem stepsThrough_readAll (stop : Nat) : StepsThrough (readAll stop) := by
  intro p k ts _
  simp only [readAll, run, bind_assoc, Logged.outcome_bind]

end TypeReader

theorem readType_outcome (s : String) :
    (readType s).outcome = (tokenize s).mapError .lexical >>= fun l =>
      (TypeReader.start []).readAll l.stop l.tokens := by
  simp only [readType, readTokens, TypeReader.readAll, Logged.outcome_bind,
    Logged.outcome_mapError, Logged.outcome_ofExcept, Logged.outcome_note, Logged.outcome_pure]
  refine bind_congr fun l => bind_congr fun p => ?_
  exact bind_pure _

theorem Derives.readAll_eq {ts : Tokens} {x : Tree} (hx : Derives ts x) (stop : Nat) :
    (TypeReader.start []).readAll stop ts = x.resolve 0 := by
  have h := hx.read_eq (TypeReader.stepsThrough_readAll stop) [] []
  rw [List.append_nil] at h
  rw [h]
  exact bind_pure _

end SqlSchema.Syntax
