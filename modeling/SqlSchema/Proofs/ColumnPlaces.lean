import SqlSchema.Proofs.ColumnReading
import SqlSchema.Proofs.Places

/-!
# The places that a reader of schemas reaches

`ColumnsReached ts r` says what the tokens `ts` read so far are if a reader of schemas stands at the
place `r`. Where the text may end, the tokens are a derived column list
(`ColumnsReached.exists_derives`).
-/

namespace SqlSchema.Syntax

open Log

/-- The tokens before the name of a column. -/
inductive ColumnsBefore : Tokens → Prop
  | first : ColumnsBefore []
  | behind {ts : Tokens} {cs : List ColumnTree} {o : Nat} : DerivesColumns ts cs →
      ColumnsBefore (ts ++ [⟨.comma, o⟩])

/-- The tokens lead to this place in a column list. -/
inductive ColumnsReached : Tokens → SchemaReader → Prop
  | start : ColumnsReached [] .start
  | nextColumn {ts : Tokens} {s : Schema} : ColumnsBefore ts → ColumnsReached ts (.nextColumn s)
  | columnType {ts us : Tokens} {k : Token} {name name' : String} {o : Nat} {s : Schema}
      {p : TypeReader} : ColumnsBefore ts → k.name? = some name → Reached us p →
      ColumnsReached (ts ++ ⟨k, o⟩ :: us) (.columnType s name' p)
  | roleOrEnd {ts us : Tokens} {k : Token} {name : String} {o : Nat} {x : Tree} {s : Schema}
      {f : Field} : ColumnsBefore ts → k.name? = some name → Derives us x →
      ColumnsReached (ts ++ ⟨k, o⟩ :: us) (.roleOrEnd s f)
  | columnEnd {ts : Tokens} {cs : List ColumnTree} {s : Schema} : DerivesColumns ts cs →
      ColumnsReached ts (.columnEnd s)

/-! ## Columns -/

theorem DerivesColumns.append_comma {ts us : Tokens} {xs ys : List ColumnTree}
    (hx : DerivesColumns ts xs) (hy : DerivesColumns us ys) (o : Nat) :
    DerivesColumns (ts ++ ⟨.comma, o⟩ :: us) (xs ++ ys) := by
  induction hx with
  | one hk ht hm =>
    rw [List.cons_append, List.append_assoc]
    exact .cons hk ht hm hy
  | cons hk ht hm _ ih =>
    rw [List.cons_append, List.append_assoc, List.append_assoc]
    exact .cons hk ht hm ih

theorem ColumnsBefore.exists_snoc {ts us ms : Tokens} {k : Token} {name : String} {o : Nat}
    {x : Tree} {role : Role} (hb : ColumnsBefore ts) (hk : k.name? = some name)
    (hx : Derives us x) (hm : DerivesRole ms role) :
    ∃ cs, DerivesColumns (ts ++ ⟨k, o⟩ :: (us ++ ms)) cs := by
  cases hb with
  | first => exact ⟨_, .one hk hx hm⟩
  | behind hc =>
    rw [List.append_assoc]
    exact ⟨_, hc.append_comma (.one hk hx hm) _⟩

/-! ## Steps -/

theorem ColumnsBefore.begin {ts : Tokens} {s : Schema} {k : Token} {o : Nat} {r : SchemaReader}
    (hb : ColumnsBefore ts) (hr : (SchemaReader.beginColumn s k o).outcome = .ok r) :
    ColumnsReached (ts ++ [⟨k, o⟩]) r := by
  unfold SchemaReader.beginColumn at hr
  split at hr
  · next hk =>
    obtain rfl := Except.ok.inj hr
    exact .columnType hb hk (.start .none)
  · cases hr

/-- Behind a step inside a type the column goes on or its type is complete. -/
theorem ColumnsBefore.ofType {ts us : Tokens} {k : Token} {name : String} {o : Nat}
    {p : TypeReader} (hb : ColumnsBefore ts) (hk : k.name? = some name) (hp : Reached us p)
    (s : Schema) (name' : String) :
    ColumnsReached (ts ++ ⟨k, o⟩ :: us) (SchemaReader.ofType s name' p) := by
  cases p with
  | done t =>
    obtain ⟨x, hx⟩ := hp.exists_derives
    exact .roleOrEnd hb hk hx
  | _ => exact .columnType hb hk hp

/-- Each step of a reader leads to a place that the tokens lead to. -/
theorem ColumnsReached.step {ts : Tokens} {r r' : SchemaReader} {k : Token} {o : Nat}
    (hr : ColumnsReached ts r) (hs : (r.step k o).outcome = .ok r') :
    ColumnsReached (ts ++ [⟨k, o⟩]) r' := by
  cases hr with
  | start => exact ColumnsBefore.first.begin hs
  | nextColumn hb => exact hb.begin hs
  | columnType hb hk hp =>
    simp only [SchemaReader.step, Logged.outcome_bind] at hs
    obtain ⟨p, hp', hs⟩ := bind_eq_ok_iff.1 hs
    obtain rfl := Except.ok.inj hs
    rw [List.append_assoc, List.cons_append]
    exact hb.ofType hk (hp.step hp') _ _
  | roleOrEnd hb hk hx =>
    cases k with
    | comma =>
      obtain rfl := Except.ok.inj hs
      obtain ⟨cs, hc⟩ := hb.exists_snoc hk hx .value
      rw [List.append_nil] at hc
      exact .nextColumn (.behind hc)
    | ident w =>
      simp only [SchemaReader.step] at hs
      split at hs
      · next hw =>
        obtain rfl := Except.ok.inj hs
        obtain ⟨cs, hc⟩ := hb.exists_snoc hk hx (.key (isKeyMark_iff.1 hw))
        rw [List.append_assoc, List.cons_append]
        exact .columnEnd hc
      · cases hs
    | _ => cases hs
  | columnEnd hc =>
    cases k with
    | comma =>
      obtain rfl := Except.ok.inj hs
      exact .nextColumn (.behind hc)
    | _ => cases hs

theorem ColumnsReached.run {us : Tokens} {r r' : SchemaReader} (hr : ColumnsReached us r)
    (ts : Tokens) (hrun : (r.run ts).outcome = .ok r') : ColumnsReached (us ++ ts) r' := by
  induction ts generalizing us r with
  | nil =>
    obtain rfl := Except.ok.inj hrun
    rw [List.append_nil]
    exact hr
  | cons k ts ih =>
    simp only [SchemaReader.run, Logged.outcome_bind] at hrun
    obtain ⟨r₁, hs, hrun⟩ := bind_eq_ok_iff.1 hrun
    rw [List.append_cons]
    exact ih (hr.step hs) hrun

/-- Where the text may end, the tokens are a column list. -/
theorem ColumnsReached.exists_derives {ts : Tokens} {r : SchemaReader} {stop : Nat} {s : Schema}
    (hr : ColumnsReached ts r) (hs : (r.finish stop).outcome = .ok s) :
    ∃ cs, DerivesSchema ts cs := by
  cases hr with
  | start => exact ⟨_, .empty⟩
  | nextColumn => cases hs
  | columnType => cases hs
  | roleOrEnd hb hk hx =>
    obtain ⟨cs, hc⟩ := hb.exists_snoc hk hx .value
    rw [List.append_nil] at hc
    exact ⟨_, .columns hc⟩
  | columnEnd hc => exact ⟨_, .columns hc⟩

theorem exists_derivesSchema_of_readAll {ts : Tokens} {stop : Nat} {s : Schema}
    (h : SchemaReader.start.readAll stop ts = .ok s) : ∃ cs, DerivesSchema ts cs := by
  rw [SchemaReader.readAll, Logged.outcome_bind] at h
  obtain ⟨r, hrun, hr⟩ := bind_eq_ok_iff.1 h
  exact (ColumnsReached.start.run ts hrun).exists_derives hr

end SqlSchema.Syntax
