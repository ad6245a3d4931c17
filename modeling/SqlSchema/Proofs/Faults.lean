import SqlSchema.Proofs.Places

/-!
# Where a reader fails

A reader fails with an error about the token it stands at, or about the end of the text. It does so
for too many types inside others only where a type starts and as many are open as there may be: no
place that a reader reaches has more of them open (`TypeReader.Within.run`,
`SchemaReader.Within.run`).
-/

namespace SqlSchema.Syntax

open Log

/-! ## Runs -/

section

variable {ε σ : Type} {step : σ → Token → Nat → Logged ε σ} {run : σ → Tokens → Logged ε σ}

/-- A run goes through the tokens step by step. -/
structure Runs (step : σ → Token → Nat → Logged ε σ) (run : σ → Tokens → Logged ε σ) : Prop where
  nil : ∀ p, run p [] = pure p
  cons : ∀ p k ts, run p (k :: ts) = step p k.item k.offset >>= fun q => run q ts

namespace Runs

theorem keeps (h : Runs step run) {P : σ → Prop}
    (hstep : ∀ p q k o, P p → (step p k o).outcome = .ok q → P q) {p q : σ} {ts : Tokens}
    (hp : P p) (hrun : (run p ts).outcome = .ok q) : P q := by
  induction ts generalizing p with
  | nil =>
    rw [h.nil] at hrun
    obtain rfl := Except.ok.inj hrun
    exact hp
  | cons k ts ih =>
    rw [h.cons, Logged.outcome_bind] at hrun
    obtain ⟨p₁, hs, hrun⟩ := bind_eq_ok_iff.1 hrun
    exact ih (hstep p p₁ _ _ hp hs) hrun

theorem exists_step_of_error (h : Runs step run) {p : σ} {ts : Tokens} {e : ε}
    (hrun : (run p ts).outcome = .error e) : ∃ before k after q, ts = before ++ k :: after ∧
      (run p before).outcome = .ok q ∧ (step q k.item k.offset).outcome = .error e := by
  induction ts generalizing p with
  | nil =>
    rw [h.nil] at hrun
    cases hrun
  | cons k ts ih =>
    rw [h.cons, Logged.outcome_bind] at hrun
    rcases bind_eq_error_iff.1 hrun with hs | ⟨p₁, hs, hrun⟩
    · exact ⟨[], k, ts, p, rfl, by rw [h.nil]; rfl, hs⟩
    · obtain ⟨before, k', after, q, rfl, hbefore, hstep⟩ := ih hrun
      refine ⟨k :: before, k', after, q, rfl, ?_, hstep⟩
      rw [h.cons, Logged.outcome_bind]
      exact bind_eq_ok_iff.2 ⟨p₁, hs, hbefore⟩

theorem error_of_step (h : Runs step run) {p q : σ} {before : Tokens} {k : Located Token} {e : ε}
    (hrun : (run p before).outcome = .ok q) (hstep : (step q k.item k.offset).outcome = .error e)
    (rest : Tokens) : (run p (before ++ k :: rest)).outcome = .error e := by
  induction before generalizing p with
  | nil =>
    rw [h.nil] at hrun
    obtain rfl := Except.ok.inj hrun
    rw [List.nil_append, h.cons, Logged.outcome_bind]
    exact bind_eq_error_iff.2 (Or.inl hstep)
  | cons j before ih =>
    rw [h.cons, Logged.outcome_bind] at hrun
    obtain ⟨p₁, hs, hrun⟩ := bind_eq_ok_iff.1 hrun
    rw [List.cons_append, h.cons, Logged.outcome_bind]
    exact bind_eq_error_iff.2 (Or.inr ⟨p₁, hs, ih hrun⟩)

end Runs

end

theorem TypeReader.runs : Runs TypeReader.step TypeReader.run :=
  ⟨fun _ => rfl, fun _ _ _ => rfl⟩

theorem SchemaReader.runs : Runs SchemaReader.step SchemaReader.run :=
  ⟨fun _ => rfl, fun _ _ _ => rfl⟩

/-! ## Errors of a step and at the end -/

/-- The errors of a step at a token. -/
inductive StepError (Deep : Prop) (k : Token) (o : Nat) : ParseError → Prop
  | unexpected (x : Expectation) : StepError Deep k o (.unexpectedToken x k o)
  | unknown (w : String) : k = .ident w → StepError Deep k o (.unknownType w o)
  | tooDeep : Deep → StepError Deep k o (.tooDeep o)
  | invalid (cause : TypeError) (o' : Nat) : StepError Deep k o (.invalid cause o')

theorem StepError.mono {Deep Deep' : Prop} {k : Token} {o : Nat} {e : ParseError}
    (h : StepError Deep k o e) (hd : Deep → Deep') : StepError Deep' k o e := by
  cases h with
  | unexpected x => exact .unexpected x
  | unknown w hw => exact .unknown w hw
  | tooDeep h => exact .tooDeep (hd h)
  | invalid cause o' => exact .invalid cause o'

/-- The errors where a text ends. -/
inductive EndError (Deep : Prop) (stop : Nat) : ParseError → Prop
  | unexpected (x : Expectation) : EndError Deep stop (.unexpectedEnd x)
  | tooDeep : Deep → EndError Deep stop (.tooDeep stop)

theorem EndError.mono {Deep Deep' : Prop} {stop : Nat} {e : ParseError} (h : EndError Deep stop e)
    (hd : Deep → Deep') : EndError Deep' stop e := by
  cases h with
  | unexpected x => exact .unexpected x
  | tooDeep h => exact .tooDeep (hd h)

namespace TypeReader

/-- A type is about to start inside as many types as there may be. -/
def Full (p : TypeReader) : Prop :=
  ∃ outer, p = .start outer ∧ nestingLimit ≤ outer.length

theorem complete_eq_error {t : DataType} {outer : List Frame} {e : ParseError}
    (h : (complete t outer).outcome = .error e) : ∃ cause o, e = .invalid cause o := by
  cases outer with
  | nil => cases h
  | cons f outer =>
    cases f with
    | item | mapKey | mapValue => cases h
    | field earlier name o =>
      rw [complete, Logged.outcome_bind] at h
      rcases bind_eq_error_iff.1 h with h | ⟨l, -, h⟩
      · obtain ⟨cause, -, rfl⟩ := mapError_eq_error_iff.1 h
        exact ⟨cause, o, rfl⟩
      · cases h

theorem begin_eq_error {Deep : Prop} {k : Token} {o : Nat} {outer : List Frame} {e : ParseError}
    (h : (begin outer o k).outcome = .error e) : StepError Deep k o e := by
  unfold begin at h
  split at h
  · split at h
    · obtain ⟨cause, o', rfl⟩ := complete_eq_error h
      exact .invalid cause o'
    · cases h
    · cases h
    · obtain rfl := Except.error.inj h
      exact .unknown _ rfl
  · obtain rfl := Except.error.inj h
    exact .unexpected _

theorem complete_stepError {Deep : Prop} {k : Token} {o : Nat} {t : DataType}
    {outer : List Frame} {e : ParseError} (h : (complete t outer).outcome = .error e) :
    StepError Deep k o e := by
  obtain ⟨cause, o', rfl⟩ := complete_eq_error h
  exact .invalid cause o'

theorem decimal_step_eq_error {Deep : Prop} {o o₁ : Nat} {part : DecimalPart}
    {outer : List Frame} {k : Token} {e : ParseError}
    (h : ((decimal o part outer).step k o₁).outcome = .error e) : StepError Deep k o₁ e := by
  cases part with
  | closing p s =>
    cases k with
    | rparen =>
      rw [step, Logged.outcome_bind] at h
      rcases bind_eq_error_iff.1 h with h | ⟨d, -, h⟩
      · obtain ⟨cause, -, rfl⟩ := mapError_eq_error_iff.1 h
        exact .invalid cause o
      · exact complete_stepError h
    | _ =>
      obtain rfl := Except.error.inj h
      exact .unexpected _
  | opening | precision | comma p | scale p =>
    cases k <;> cases h
    all_goals exact .unexpected _

theorem step_eq_error {q : TypeReader} {k : Token} {o : Nat} {e : ParseError}
    (h : (q.step k o).outcome = .error e) : StepError q.Full k o e := by
  cases q with
  | start outer =>
    simp only [step] at h
    split at h
    · exact begin_eq_error h
    · next hn =>
      obtain rfl := Except.error.inj h
      exact .tooDeep ⟨outer, rfl, Nat.le_of_not_lt hn⟩
  | decimal o₁ part outer => exact decimal_step_eq_error h
  | opening c outer =>
    cases k <;> cases h
    all_goals exact .unexpected _
  | firstField outer =>
    cases k with
    | gt => exact complete_stepError h
    | _ =>
      cases h
      all_goals exact .unexpected _
  | nextField l outer =>
    cases k <;> cases h
    all_goals exact .unexpected _
  | fieldEnd l outer =>
    cases k with
    | gt => exact complete_stepError h
    | _ =>
      cases h
      all_goals exact .unexpected _
  | itemEnd item outer =>
    cases k with
    | gt => exact complete_stepError h
    | _ =>
      cases h
      all_goals exact .unexpected _
  | keyEnd key outer =>
    cases k <;> cases h
    all_goals exact .unexpected _
  | valueEnd key value outer =>
    cases k with
    | gt => exact complete_stepError h
    | _ =>
      cases h
      all_goals exact .unexpected _
  | done t =>
    cases k <;> cases h
    all_goals exact .unexpected _

theorem endError_cases (q : TypeReader) (stop : Nat) : EndError q.Full stop (q.endError stop) := by
  cases q with
  | start outer =>
    simp only [endError]
    split
    · exact .unexpected _
    · next hn => exact .tooDeep ⟨outer, rfl, Nat.le_of_not_lt hn⟩
  | _ => exact .unexpected _

theorem finish_eq_error {q : TypeReader} {stop : Nat} {e : ParseError}
    (h : (q.finish stop).outcome = .error e) : EndError q.Full stop e := by
  cases q with
  | done t => cases h
  | _ =>
    obtain rfl := Except.error.inj h
    exact endError_cases _ stop

/-! ## No more types are open than may be -/

/-- Where a type starts, at most as many types are open as there may be levels. Inside of a type
there is one level left for it. -/
def Within : TypeReader → Prop
  | .start outer => outer.length ≤ nestingLimit
  | .decimal _ _ outer | .opening _ outer | .firstField outer | .nextField _ outer
  | .fieldEnd _ outer | .itemEnd _ outer | .keyEnd _ outer | .valueEnd _ _ outer =>
    outer.length < nestingLimit
  | .done _ => True

theorem within_complete {t : DataType} {outer : List Frame} {q : TypeReader}
    (ho : outer.length ≤ nestingLimit) (h : (complete t outer).outcome = .ok q) : q.Within := by
  cases outer with
  | nil =>
    obtain rfl := Except.ok.inj h
    trivial
  | cons f outer =>
    cases f with
    | item | mapKey | mapValue =>
      obtain rfl := Except.ok.inj h
      exact ho
    | field earlier name o =>
      rw [complete, Logged.outcome_bind] at h
      obtain ⟨l, -, h⟩ := bind_eq_ok_iff.1 h
      obtain rfl := Except.ok.inj h
      exact ho

theorem within_enter {c : Container} {outer : List Frame} (ho : outer.length < nestingLimit) :
    (enter outer c).Within := by
  cases c <;> exact ho

theorem Within.begin {outer : List Frame} {k : Token} {o : Nat} {q : TypeReader}
    (ho : outer.length < nestingLimit) (h : (TypeReader.begin outer o k).outcome = .ok q) :
    q.Within := by
  unfold TypeReader.begin at h
  split at h
  · split at h
    · exact within_complete (Nat.le_of_lt ho) h
    · obtain rfl := Except.ok.inj h
      exact ho
    · obtain rfl := Except.ok.inj h
      exact ho
    · cases h
  · cases h

theorem Within.decimal_step {o o₁ : Nat} {part : DecimalPart} {outer : List Frame} {k : Token}
    {q : TypeReader} (ho : outer.length < nestingLimit)
    (h : ((decimal o part outer).step k o₁).outcome = .ok q) : q.Within := by
  cases part with
  | closing p s =>
    cases k with
    | rparen =>
      rw [TypeReader.step, Logged.outcome_bind] at h
      obtain ⟨d, -, h⟩ := bind_eq_ok_iff.1 h
      exact within_complete (Nat.le_of_lt ho) h
    | _ => cases h
  | opening | precision | comma p | scale p =>
    cases k <;> cases h
    all_goals exact ho

/-- A step keeps the number of open types within the limit. -/
theorem Within.step {p q : TypeReader} {k : Token} {o : Nat} (hp : p.Within)
    (h : (p.step k o).outcome = .ok q) : q.Within := by
  cases p with
  | start outer =>
    simp only [TypeReader.step] at h
    split at h
    · next ho => exact Within.begin ho h
    · cases h
  | decimal o₁ part outer => exact Within.decimal_step hp h
  | opening c outer =>
    cases k with
    | lt =>
      obtain rfl := Except.ok.inj h
      exact within_enter hp
    | _ => cases h
  | firstField outer =>
    cases k with
    | gt => exact within_complete (Nat.le_of_lt hp) h
    | _ =>
      cases h
      all_goals exact hp
  | nextField l outer =>
    cases k <;> cases h
    all_goals exact hp
  | fieldEnd l outer =>
    cases k with
    | gt => exact within_complete (Nat.le_of_lt hp) h
    | _ =>
      cases h
      all_goals exact hp
  | itemEnd item outer =>
    cases k with
    | gt => exact within_complete (Nat.le_of_lt hp) h
    | _ => cases h
  | keyEnd key outer =>
    cases k <;> cases h
    all_goals exact hp
  | valueEnd key value outer =>
    cases k with
    | gt => exact within_complete (Nat.le_of_lt hp) h
    | _ => cases h
  | done t => cases k <;> cases h

theorem Within.run {p q : TypeReader} {ts : Tokens} (hp : p.Within)
    (h : (p.run ts).outcome = .ok q) : q.Within :=
  runs.keeps (fun _ _ _ _ hp => hp.step) hp h

/-- Where no further type may start, just as many types are open as there may be levels. -/
theorem Full.exists_opened {ts : Tokens} {p : TypeReader} (hf : p.Full) (hp : Reached ts p)
    (hw : p.Within) : ∃ outer, Opened ts outer ∧ outer.length = nestingLimit := by
  obtain ⟨outer, rfl, hle⟩ := hf
  cases hp with
  | start ho => exact ⟨outer, ho, Nat.le_antisymm hw hle⟩

end TypeReader

namespace SchemaReader

/-- A type is about to start inside as many types of a column as there may be. -/
def Full (r : SchemaReader) : Prop :=
  ∃ s name p, r = .columnType s name p ∧ p.Full

theorem beginColumn_eq_error {Deep : Prop} {s : Schema} {k : Token} {o : Nat} {e : ParseError}
    (h : (beginColumn s k o).outcome = .error e) : StepError Deep k o e := by
  unfold beginColumn at h
  split at h
  · cases h
  · obtain rfl := Except.error.inj h
    exact .unexpected _

theorem step_eq_error {r : SchemaReader} {k : Token} {o : Nat} {e : ParseError}
    (h : (r.step k o).outcome = .error e) : StepError r.Full k o e := by
  cases r with
  | start => exact beginColumn_eq_error h
  | nextColumn s => exact beginColumn_eq_error h
  | columnType s name p =>
    rw [step, Logged.outcome_bind] at h
    rcases bind_eq_error_iff.1 h with h | ⟨q, -, h⟩
    · exact (TypeReader.step_eq_error h).mono fun hp => ⟨s, name, p, rfl, hp⟩
    · cases h
  | roleOrEnd s f =>
    cases k with
    | comma => cases h
    | ident w =>
      simp only [step] at h
      split at h
      · cases h
      · obtain rfl := Except.error.inj h
        exact .unexpected _
    | _ =>
      obtain rfl := Except.error.inj h
      exact .unexpected _
  | columnEnd s =>
    cases k with
    | comma => cases h
    | _ =>
      obtain rfl := Except.error.inj h
      exact .unexpected _

theorem finish_eq_error {r : SchemaReader} {stop : Nat} {e : ParseError}
    (h : (r.finish stop).outcome = .error e) : EndError r.Full stop e := by
  cases r with
  | nextColumn s =>
    obtain rfl := Except.error.inj h
    exact .unexpected _
  | columnType s name p =>
    obtain rfl := Except.error.inj h
    exact (TypeReader.endError_cases p stop).mono fun hp => ⟨s, name, p, rfl, hp⟩
  | start => cases h
  | roleOrEnd s f => cases h
  | columnEnd s => cases h

/-- Inside of a column, no more types are open than may be. -/
def Within : SchemaReader → Prop
  | .columnType _ _ p => p.Within
  | _ => True

theorem within_beginColumn {s : Schema} {k : Token} {o : Nat} {r : SchemaReader}
    (h : (beginColumn s k o).outcome = .ok r) : r.Within := by
  unfold beginColumn at h
  split at h
  · obtain rfl := Except.ok.inj h
    exact Nat.zero_le _
  · cases h

theorem within_ofType {s : Schema} {name : String} {p : TypeReader} (hp : p.Within) :
    (ofType s name p).Within := by
  cases p with
  | done t => trivial
  | _ => exact hp

theorem Within.step {r r' : SchemaReader} {k : Token} {o : Nat} (hr : r.Within)
    (h : (r.step k o).outcome = .ok r') : r'.Within := by
  cases r with
  | start => exact within_beginColumn h
  | nextColumn s => exact within_beginColumn h
  | columnType s name p =>
    rw [SchemaReader.step, Logged.outcome_bind] at h
    obtain ⟨q, hq, h⟩ := bind_eq_ok_iff.1 h
    obtain rfl := Except.ok.inj h
    exact within_ofType (TypeReader.Within.step hr hq)
  | roleOrEnd s f =>
    cases k with
    | comma =>
      obtain rfl := Except.ok.inj h
      trivial
    | ident w =>
      simp only [SchemaReader.step] at h
      split at h
      · obtain rfl := Except.ok.inj h
        trivial
      · cases h
    | _ => cases h
  | columnEnd s =>
    cases k with
    | comma =>
      obtain rfl := Except.ok.inj h
      trivial
    | _ => cases h

theorem Within.run {r r' : SchemaReader} {ts : Tokens} (hr : r.Within)
    (h : (r.run ts).outcome = .ok r') : r'.Within :=
  runs.keeps (fun _ _ _ _ hr => hr.step) hr h

end SchemaReader

end SqlSchema.Syntax
