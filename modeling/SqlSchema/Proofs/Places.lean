import SqlSchema.Proofs.TypeReading

/-!
# The places that a reader reaches

`Reached ts p` says what the tokens `ts` read so far are if a reader of types stands at the place
`p`: the beginnings of the open containers, each with its complete parts, and the part of a type
that has been read. Every step keeps this (`Reached.step`), and at the end of a complete type it
says that the tokens are derived (`Reached.exists_derives`).
-/

namespace SqlSchema.Syntax

open Log

/-- The tokens between the bracket of a struct and the name of a field. -/
inductive FieldsBefore : Tokens → Prop
  | first : FieldsBefore []
  | behind {ts : Tokens} {fs : List FieldTree} {o : Nat} : DerivesFields ts fs →
      FieldsBefore (ts ++ [⟨.comma, o⟩])

/-- The tokens lead to the start of a type inside these open containers. -/
inductive Opened : Tokens → List Frame → Prop
  | none : Opened [] []
  | item {w : String} {o o₁ : Nat} {ts : Tokens} {outer : List Frame} :
      IsKeyword w (.container .array) → Opened ts outer →
      Opened (ts ++ [⟨.ident w, o⟩, ⟨.lt, o₁⟩]) (.item :: outer)
  | mapKey {w : String} {o o₁ : Nat} {ts : Tokens} {outer : List Frame} :
      IsKeyword w (.container .map) → Opened ts outer →
      Opened (ts ++ [⟨.ident w, o⟩, ⟨.lt, o₁⟩]) (.mapKey :: outer)
  | mapValue {w : String} {o o₁ o₂ : Nat} {ts ks : Tokens} {k : Tree} {key : DataType}
      {outer : List Frame} : IsKeyword w (.container .map) → Derives ks k →
      Opened ts outer →
      Opened (ts ++ ⟨.ident w, o⟩ :: ⟨.lt, o₁⟩ :: (ks ++ [⟨.comma, o₂⟩])) (.mapValue key :: outer)
  | field {w : String} {o o₁ o₂ : Nat} {ts us : Tokens} {k : Token} {name : String}
      {earlier : FieldList} {outer : List Frame} : IsKeyword w (.container .struct) →
      FieldsBefore us → k.name? = some name → Opened ts outer →
      Opened (ts ++ ⟨.ident w, o⟩ :: ⟨.lt, o₁⟩ :: (us ++ [⟨k, o₂⟩]))
        (.field earlier name o₂ :: outer)

/-- The tokens of a decimal type up to some part of it. -/
inductive DecimalRead : Tokens → DecimalPart → Prop
  | opening {w : String} {o : Nat} : IsKeyword w .decimal →
      DecimalRead [⟨.ident w, o⟩] .opening
  | precision {w : String} {o o₁ : Nat} : IsKeyword w .decimal →
      DecimalRead [⟨.ident w, o⟩, ⟨.lparen, o₁⟩] .precision
  | comma {w : String} {o o₁ o₂ : Nat} {p : UInt32} : IsKeyword w .decimal →
      DecimalRead [⟨.ident w, o⟩, ⟨.lparen, o₁⟩, ⟨.number p, o₂⟩] (.comma p)
  | scale {w : String} {o o₁ o₂ o₃ : Nat} {p : UInt32} : IsKeyword w .decimal →
      DecimalRead [⟨.ident w, o⟩, ⟨.lparen, o₁⟩, ⟨.number p, o₂⟩, ⟨.comma, o₃⟩] (.scale p)
  | closing {w : String} {o o₁ o₂ o₃ o₄ : Nat} {p s : UInt32} : IsKeyword w .decimal →
      DecimalRead [⟨.ident w, o⟩, ⟨.lparen, o₁⟩, ⟨.number p, o₂⟩, ⟨.comma, o₃⟩,
        ⟨.number s, o₄⟩] (.closing p s)

/-- The tokens lead to this place. -/
inductive Reached : Tokens → TypeReader → Prop
  | start {ts : Tokens} {outer : List Frame} : Opened ts outer → Reached ts (.start outer)
  | decimal {o : Nat} {ts us : Tokens} {part : DecimalPart} {outer : List Frame} :
      Opened ts outer → DecimalRead us part → Reached (ts ++ us) (.decimal o part outer)
  | opening {w : String} {o : Nat} {c : Container} {ts : Tokens} {outer : List Frame} :
      Opened ts outer → IsKeyword w (.container c) →
      Reached (ts ++ [⟨.ident w, o⟩]) (.opening c outer)
  | firstField {w : String} {o o₁ : Nat} {ts : Tokens} {outer : List Frame} : Opened ts outer →
      IsKeyword w (.container .struct) →
      Reached (ts ++ [⟨.ident w, o⟩, ⟨.lt, o₁⟩]) (.firstField outer)
  | nextField {w : String} {o o₁ o₂ : Nat} {ts us : Tokens} {fs : List FieldTree}
      {l : FieldList} {outer : List Frame} : Opened ts outer →
      IsKeyword w (.container .struct) → DerivesFields us fs →
      Reached (ts ++ ⟨.ident w, o⟩ :: ⟨.lt, o₁⟩ :: (us ++ [⟨.comma, o₂⟩])) (.nextField l outer)
  | fieldEnd {w : String} {o o₁ : Nat} {ts us : Tokens} {fs : List FieldTree} {l : FieldList}
      {outer : List Frame} : Opened ts outer → IsKeyword w (.container .struct) →
      DerivesFields us fs → Reached (ts ++ ⟨.ident w, o⟩ :: ⟨.lt, o₁⟩ :: us) (.fieldEnd l outer)
  | itemEnd {w : String} {o o₁ : Nat} {ts us : Tokens} {x : Tree} {t : DataType}
      {outer : List Frame} : Opened ts outer → IsKeyword w (.container .array) →
      Derives us x → Reached (ts ++ ⟨.ident w, o⟩ :: ⟨.lt, o₁⟩ :: us) (.itemEnd t outer)
  | keyEnd {w : String} {o o₁ : Nat} {ts us : Tokens} {x : Tree} {t : DataType}
      {outer : List Frame} : Opened ts outer → IsKeyword w (.container .map) →
      Derives us x → Reached (ts ++ ⟨.ident w, o⟩ :: ⟨.lt, o₁⟩ :: us) (.keyEnd t outer)
  | valueEnd {w : String} {o o₁ o₂ : Nat} {ts ks vs : Tokens} {k v : Tree} {s t : DataType}
      {outer : List Frame} : Opened ts outer → IsKeyword w (.container .map) →
      Derives ks k → Derives vs v →
      Reached (ts ++ ⟨.ident w, o⟩ :: ⟨.lt, o₁⟩ :: (ks ++ ⟨.comma, o₂⟩ :: vs))
        (.valueEnd s t outer)
  | done {ts : Tokens} {x : Tree} {t : DataType} : Derives ts x → Reached ts (.done t)

/-! ## Fields -/

theorem DerivesFields.snoc {ts us : Tokens} {fs : List FieldTree} {k : Token} {name : String}
    {o o₁ : Nat} {x : Tree} (hf : DerivesFields ts fs) (hk : k.name? = some name)
    (hx : Derives us x) :
    DerivesFields (ts ++ ⟨.comma, o₁⟩ :: ⟨k, o⟩ :: us) (fs ++ [⟨name, o, x⟩]) :=
  match hf with
  | .one hk' hy => .cons hk' hy (.one hk hx)
  | .cons hk' hy hf => by
    rw [List.cons_append, List.append_assoc]
    exact .cons hk' hy (hf.snoc hk hx)

theorem FieldsBefore.exists_snoc {ts us : Tokens} {k : Token} {name : String} {o : Nat} {x : Tree}
    (hb : FieldsBefore ts) (hk : k.name? = some name) (hx : Derives us x) :
    ∃ fs, DerivesFields (ts ++ ⟨k, o⟩ :: us) fs := by
  cases hb with
  | first => exact ⟨_, .one hk hx⟩
  | behind hf =>
    rw [List.append_assoc]
    exact ⟨_, hf.snoc hk hx⟩

/-! ## Steps -/

/-- Behind a complete type the reader stands in the container around it. -/
theorem Opened.complete {ts us : Tokens} {outer : List Frame} {x : Tree} {t : DataType}
    {q : TypeReader} (ho : Opened ts outer) (hx : Derives us x)
    (hq : (TypeReader.complete t outer).outcome = .ok q) : Reached (ts ++ us) q := by
  cases ho with
  | none =>
    obtain rfl := Except.ok.inj hq
    exact .done hx
  | item hw ho =>
    obtain rfl := Except.ok.inj hq
    rw [List.append_assoc]
    exact .itemEnd ho hw hx
  | mapKey hw ho =>
    obtain rfl := Except.ok.inj hq
    rw [List.append_assoc]
    exact .keyEnd ho hw hx
  | mapValue hw hk ho =>
    obtain rfl := Except.ok.inj hq
    simp only [List.append_assoc, List.cons_append, List.nil_append]
    exact .valueEnd ho hw hk hx
  | @field w o o₁ o₂ ts vs k name earlier outer hw hb hk ho =>
    obtain ⟨fs, hf⟩ := hb.exists_snoc hk hx
    simp only [TypeReader.complete, Logged.outcome_bind] at hq
    cases hadd : ((earlier.add ⟨name, t⟩).mapError (ParseError.invalid · o₂)).outcome with
    | error e =>
      rw [hadd] at hq
      cases hq
    | ok l =>
      rw [hadd] at hq
      obtain rfl := Except.ok.inj hq
      simp only [List.append_assoc, List.cons_append, List.nil_append]
      exact .fieldEnd ho hw hf

theorem Opened.begin {ts : Tokens} {outer : List Frame} {k : Token} {o : Nat} {q : TypeReader}
    (ho : Opened ts outer) (hq : (TypeReader.begin outer o k).outcome = .ok q) :
    Reached (ts ++ [⟨k, o⟩]) q := by
  unfold TypeReader.begin at hq
  split at hq
  · split at hq
    · next hw => exact ho.complete (.simple (keyword?_eq_some_iff.1 hw)) hq
    · next hw =>
      obtain rfl := Except.ok.inj hq
      exact .decimal ho (.opening (keyword?_eq_some_iff.1 hw))
    · next hw =>
      obtain rfl := Except.ok.inj hq
      exact .opening ho (keyword?_eq_some_iff.1 hw)
    · cases hq
  · cases hq

theorem Opened.enter {w : String} {o o₁ : Nat} {c : Container} {ts : Tokens} {outer : List Frame}
    (ho : Opened ts outer) (hw : IsKeyword w (.container c)) :
    Reached (ts ++ [⟨.ident w, o⟩, ⟨.lt, o₁⟩]) (TypeReader.enter outer c) := by
  cases c with
  | array => exact .start (.item hw ho)
  | map => exact .start (.mapKey hw ho)
  | struct => exact .firstField ho hw

theorem Opened.decimal_step {ts us : Tokens} {outer : List Frame} {part : DecimalPart} {k : Token}
    {o o₁ : Nat} {q : TypeReader} (ho : Opened ts outer) (hd : DecimalRead us part)
    (hs : ((TypeReader.decimal o part outer).step k o₁).outcome = .ok q) :
    Reached (ts ++ (us ++ [⟨k, o₁⟩])) q := by
  cases hd with
  | opening hw =>
    cases k with
    | lparen =>
      obtain rfl := Except.ok.inj hs
      exact .decimal ho (.precision hw)
    | _ => cases hs
  | precision hw =>
    cases k with
    | number p =>
      obtain rfl := Except.ok.inj hs
      exact .decimal ho (.comma hw)
    | _ => cases hs
  | comma hw =>
    cases k with
    | comma =>
      obtain rfl := Except.ok.inj hs
      exact .decimal ho (.scale hw)
    | _ => cases hs
  | scale hw =>
    cases k with
    | number s =>
      obtain rfl := Except.ok.inj hs
      exact .decimal ho (.closing hw)
    | _ => cases hs
  | @closing w o₂ o₃ o₄ o₅ o₆ p s hw =>
    cases k with
    | rparen =>
      simp only [TypeReader.step, Logged.outcome_bind, Logged.outcome_mapError,
        Logged.outcome_ofExcept] at hs
      obtain ⟨d, -, hq⟩ := bind_eq_ok_iff.1 hs
      exact ho.complete (.decimal hw) hq
    | _ => cases hs

/-- Each step of a reader leads to a place that the tokens lead to. -/
theorem Reached.step {ts : Tokens} {p q : TypeReader} {k : Token} {o : Nat} (hp : Reached ts p)
    (hs : (p.step k o).outcome = .ok q) : Reached (ts ++ [⟨k, o⟩]) q := by
  -- Each place goes on with a few tokens only. Any other one is an error there.
  cases hp with
  | start ho =>
    simp only [TypeReader.step] at hs
    split at hs
    · exact ho.begin hs
    · cases hs
  | decimal ho hd =>
    rw [List.append_assoc]
    exact ho.decimal_step hd hs
  | opening ho hw =>
    cases k with
    | lt =>
      obtain rfl := Except.ok.inj hs
      rw [List.append_assoc]
      exact ho.enter hw
    | _ => cases hs
  | firstField ho hw =>
    cases k with
    | gt =>
      rw [List.append_assoc]
      exact ho.complete (.emptyStruct hw) hs
    | ident name =>
      obtain rfl := Except.ok.inj hs
      rw [List.append_assoc]
      exact .start (.field hw FieldsBefore.first rfl ho)
    | quoted name =>
      obtain rfl := Except.ok.inj hs
      rw [List.append_assoc]
      exact .start (.field hw FieldsBefore.first rfl ho)
    | _ => cases hs
  | nextField ho hw hf =>
    cases k with
    | ident name =>
      obtain rfl := Except.ok.inj hs
      rw [List.append_assoc]
      exact .start (.field hw (.behind hf) rfl ho)
    | quoted name =>
      obtain rfl := Except.ok.inj hs
      rw [List.append_assoc]
      exact .start (.field hw (.behind hf) rfl ho)
    | _ => cases hs
  | fieldEnd ho hw hf =>
    cases k with
    | comma =>
      obtain rfl := Except.ok.inj hs
      rw [List.append_assoc]
      exact .nextField ho hw hf
    | gt =>
      rw [List.append_assoc]
      exact ho.complete (.struct hw hf) hs
    | _ => cases hs
  | itemEnd ho hw hx =>
    cases k with
    | gt =>
      rw [List.append_assoc]
      exact ho.complete (.array hw hx) hs
    | _ => cases hs
  | keyEnd ho hw hx =>
    cases k with
    | comma =>
      obtain rfl := Except.ok.inj hs
      rw [List.append_assoc]
      exact .start (.mapValue hw hx ho)
    | _ => cases hs
  | valueEnd ho hw hk hv =>
    cases k with
    | gt =>
      rw [List.append_assoc, List.cons_append, List.cons_append, List.append_assoc]
      exact ho.complete (.map hw hk hv) hs
    | _ => cases hs
  | done hx => cases k <;> cases hs

theorem Reached.run {us : Tokens} {p q : TypeReader} (hp : Reached us p) (ts : Tokens)
    (hr : (p.run ts).outcome = .ok q) : Reached (us ++ ts) q := by
  induction ts generalizing us p with
  | nil =>
    obtain rfl := Except.ok.inj hr
    rw [List.append_nil]
    exact hp
  | cons k ts ih =>
    simp only [TypeReader.run, Logged.outcome_bind] at hr
    obtain ⟨p₁, hs, hr⟩ := bind_eq_ok_iff.1 hr
    rw [List.append_cons]
    exact ih (hp.step hs) hr

theorem Reached.exists_derives {ts : Tokens} {t : DataType} (hp : Reached ts (.done t)) :
    ∃ x, Derives ts x := by
  cases hp with
  | done hx => exact ⟨_, hx⟩

theorem exists_derives_of_readAll {ts : Tokens} {stop : Nat} {t : DataType}
    (h : (TypeReader.start []).readAll stop ts = .ok t) : ∃ x, Derives ts x := by
  rw [TypeReader.readAll, Logged.outcome_bind] at h
  obtain ⟨p, hrun, hp⟩ := bind_eq_ok_iff.1 h
  have hreached := (Reached.start .none).run ts hrun
  cases p with
  | done t => exact hreached.exists_derives
  | _ => cases hp

end SqlSchema.Syntax
