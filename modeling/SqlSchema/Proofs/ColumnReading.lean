import SqlSchema.Proofs.TypeReading

/-!
# Reading the tokens of a column list

`resolveColumns` says what the trees of columns come to: a schema, or the first fault of a type. A
reader of schemas reads the tokens of a derived column list to just that
(`DerivesSchema.readAll_eq`). Each column starts anew at the depth zero, whatever stood before it.
-/

namespace SqlSchema

/-- The schema with more columns, each at the end of those of its role. -/
def Schema.addAll (s : Schema) (cs : List (Role × Field)) : Schema :=
  cs.foldl (fun s c => s.add c.1 c.2) s

def fieldsOf (role : Role) (cs : List (Role × Field)) : List Field :=
  (cs.filter fun c => c.1 = role).map Prod.snd

/-- The schema that has these columns, those of each role in order. -/
def Schema.ofRoles (cs : List (Role × Field)) : Schema :=
  ⟨fieldsOf .key cs, fieldsOf .value cs⟩

theorem Schema.addAll_eq (s : Schema) (cs : List (Role × Field)) :
    s.addAll cs = ⟨s.keys ++ fieldsOf .key cs, s.values ++ fieldsOf .value cs⟩ := by
  unfold Schema.addAll fieldsOf
  induction cs generalizing s with
  | nil => simp
  | cons c cs ih =>
    obtain ⟨role, f⟩ := c
    rw [List.foldl_cons, ih]
    cases role <;> simp

theorem Schema.addAll_empty (cs : List (Role × Field)) :
    ({} : Schema).addAll cs = .ofRoles cs := by
  rw [Schema.addAll_eq]
  rfl

end SqlSchema

namespace SqlSchema.Syntax

open Log

/-! ## Columns and their trees -/

/-- The schema that the trees of columns come to behind other columns, or their first fault. -/
def resolveColumns (earlier : Schema) : List ColumnTree → Except ParseError Schema
  | [] => .ok earlier
  | ⟨name, x, role⟩ :: cs => do
    let t ← x.resolve 0
    resolveColumns (earlier.add role ⟨name, t⟩) cs

theorem columnTypes?_cons_eq_some_iff {name : String} {x : Tree} {role : Role}
    {cs : List ColumnTree} {fs : List (Role × Field)} :
    columnTypes? (⟨name, x, role⟩ :: cs) = some fs ↔
      ∃ t, x.type? = some t ∧ ∃ gs, columnTypes? cs = some gs ∧ (role, ⟨name, t⟩) :: gs = fs := by
  simp only [columnTypes?, Option.bind_eq_bind, Option.bind_eq_some_iff, Option.pure_def,
    Option.some.injEq]

/-- Columns have no fault exactly if they have types and no type is nested too deep. -/
theorem resolveColumns_eq_ok_iff {earlier s : Schema} {cs : List ColumnTree} :
    resolveColumns earlier cs = .ok s ↔
      ∃ fs, columnTypes? cs = some fs ∧ (∀ c ∈ cs, c.type.nesting ≤ nestingLimit) ∧
        s = earlier.addAll fs := by
  induction cs generalizing earlier with
  | nil => simp [resolveColumns, columnTypes?, Schema.addAll, eq_comm]
  | cons c cs ih =>
    obtain ⟨name, x, role⟩ := c
    simp only [resolveColumns, bind_eq_ok_iff, Tree.resolve_eq_ok_iff, ih,
      columnTypes?_cons_eq_some_iff, List.forall_mem_cons, Nat.zero_add]
    constructor
    · rintro ⟨t, ⟨ht, hn⟩, fs, hfs, hns, rfl⟩
      exact ⟨_, ⟨t, ht, fs, hfs, rfl⟩, ⟨hn, hns⟩, rfl⟩
    · rintro ⟨fs, ⟨t, ht, gs, hgs, rfl⟩, ⟨hn, hns⟩, rfl⟩
      exact ⟨t, ⟨ht, hn⟩, gs, hgs, hns, rfl⟩

theorem DerivesColumns.nesting_iff {ts : Tokens} {cs : List ColumnTree} {fs : List (Role × Field)}
    (hc : DerivesColumns ts cs) (hfs : columnTypes? cs = some fs) :
    (∀ c ∈ cs, c.type.nesting ≤ nestingLimit) ↔
      ∀ f ∈ fs, f.2.type.nesting ≤ nestingLimit := by
  induction hc generalizing fs with
  | one hk hx hm =>
    obtain ⟨t, ht, gs, hgs, rfl⟩ := columnTypes?_cons_eq_some_iff.1 hfs
    obtain rfl := Option.some.inj hgs
    simp [(hx.nesting_eq ht).1]
  | cons hk hx hm hc ih =>
    obtain ⟨t, ht, gs, hgs, rfl⟩ := columnTypes?_cons_eq_some_iff.1 hfs
    rw [List.forall_mem_cons, List.forall_mem_cons, ih hgs, (hx.nesting_eq ht).1]

/-! ## Steps -/

namespace SchemaReader

/-- What reading comes to when the text ends behind some tokens. -/
def readAll (stop : Nat) (r : SchemaReader) (ts : Tokens) : Except ParseError Schema :=
  (r.run ts >>= fun place => place.finish stop).outcome

theorem readAll_cons (stop : Nat) (r : SchemaReader) (k : Located Token) (ts : Tokens) :
    r.readAll stop (k :: ts) =
      (r.step k.item k.offset).outcome >>= fun place => place.readAll stop ts := by
  simp [readAll, run]

theorem ofType_of_ne_done {p : TypeReader} (hp : ∀ t, p ≠ .done t) (earlier : Schema)
    (name : String) : ofType earlier name p = .columnType earlier name p := by
  cases p with
  | done t => exact absurd rfl (hp t)
  | _ => rfl

/-- Inside the type of a column a reader of schemas steps as a reader of types. -/
theorem stepsThrough_ofType (stop : Nat) (earlier : Schema) (name : String) :
    StepsThrough fun p ts => (ofType earlier name p).readAll stop ts := by
  intro p k ts hp
  show (ofType earlier name p).readAll stop (k :: ts) = _
  rw [ofType_of_ne_done hp, readAll_cons]
  simp only [step, Logged.outcome_bind, bind_assoc]
  rfl

theorem readAll_roleOrEnd {ms : Tokens} {role : Role} (hm : DerivesRole ms role) (stop : Nat)
    (earlier : Schema) (f : Field) :
    (roleOrEnd earlier f).readAll stop ms = .ok (earlier.add role f) := by
  cases hm with
  | value => rfl
  | key hw =>
    rw [readAll_cons]
    simp only [step, isKeyMark_iff.2 hw]
    rfl

theorem readAll_roleOrEnd_comma {ms : Tokens} {role : Role} (hm : DerivesRole ms role)
    (stop : Nat) (earlier : Schema) (f : Field) (o : Nat) (us : Tokens) :
    (roleOrEnd earlier f).readAll stop (ms ++ ⟨.comma, o⟩ :: us) =
      (nextColumn (earlier.add role f)).readAll stop us := by
  cases hm with
  | value =>
    rw [List.nil_append, readAll_cons]
    rfl
  | key hw =>
    rw [List.cons_append, readAll_cons]
    simp only [step, isKeyMark_iff.2 hw]
    exact readAll_cons stop (columnEnd _) _ us

end SchemaReader

open SchemaReader

/-- The places where the name of a column starts, behind other columns. -/
inductive ColumnStart : Schema → SchemaReader → Prop
  | first : ColumnStart {} .start
  | next (s : Schema) : ColumnStart s (.nextColumn s)

theorem ColumnStart.readAll_eq {earlier : Schema} {r : SchemaReader} (hr : ColumnStart earlier r)
    {k : Token} {name : String} (hk : k.name? = some name) {ts : Tokens} {x : Tree}
    (hx : Derives ts x) (stop o : Nat) (us : Tokens) :
    r.readAll stop (⟨k, o⟩ :: (ts ++ us)) =
      x.resolve 0 >>= fun t => (roleOrEnd earlier ⟨name, t⟩).readAll stop us := by
  have hname : r.readAll stop (⟨k, o⟩ :: (ts ++ us)) =
      (columnType earlier name (.start [])).readAll stop (ts ++ us) := by
    rw [readAll_cons]
    cases hr <;> simp only [step, beginColumn, hk] <;> rfl
  rw [hname]
  exact hx.read_eq (stepsThrough_ofType stop earlier name) [] us

/-- Reading the tokens of columns comes to what their trees come to. -/
theorem DerivesColumns.readAll_eq {ts : Tokens} {cs : List ColumnTree} (hc : DerivesColumns ts cs)
    {earlier : Schema} {r : SchemaReader} (hr : ColumnStart earlier r) (stop : Nat) :
    r.readAll stop ts = resolveColumns earlier cs := by
  induction hc generalizing earlier r with
  | one hk hx hm =>
    rw [hr.readAll_eq hk hx, resolveColumns]
    exact bind_congr fun t => readAll_roleOrEnd hm stop earlier _
  | cons hk hx hm hc ih =>
    rw [hr.readAll_eq hk hx, resolveColumns]
    refine bind_congr fun t => ?_
    rw [readAll_roleOrEnd_comma hm]
    exact ih (.next _)

theorem DerivesSchema.readAll_eq {ts : Tokens} {cs : List ColumnTree} (hc : DerivesSchema ts cs)
    (stop : Nat) : SchemaReader.start.readAll stop ts = resolveColumns {} cs := by
  cases hc with
  | empty => rfl
  | columns hc => exact hc.readAll_eq .first stop

theorem readSchema_outcome (s : String) :
    (readSchema s).outcome = (tokenize s).mapError .lexical >>= fun l =>
      SchemaReader.start.readAll l.stop l.tokens := by
  simp only [readSchema, readTokens, SchemaReader.readAll, Logged.outcome_bind,
    Logged.outcome_mapError, Logged.outcome_ofExcept, Logged.outcome_note, Logged.outcome_pure]
  refine bind_congr fun l => bind_congr fun p => ?_
  exact bind_pure _

end SqlSchema.Syntax
