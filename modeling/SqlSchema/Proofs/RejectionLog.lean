import SqlSchema.Proofs.Rejections

/-!
# What a rejection logs

Every type that refuses a value notes this, behind what its parts have noted. A check stops at the
first part that does not fit, and what passes notes nothing. So at level trace the log of a check
that fails is its error read from the inside out: one line for the mismatch, and one more for each
place around it (`rejection_logs_inside_out`).
-/

namespace SqlSchema

open Log

/-! ## Rejections -/

/-- The number of places that an error names. -/
def DataError.layers : DataError → Nat
  | mismatch _ _ => 0
  | unknownField _ => 0
  | nested _ cause => cause.layers + 1

/-- The refusal of a value by a type, with the part of an error that is about it. -/
structure Rejection where
  type : DataType
  error : DataError

namespace Rejection

def words (r : Rejection) : String :=
  "value rejected by " ++ r.type.text ++ ": " ++ r.error.message

def entry (r : Rejection) : Entry :=
  .note .trace .types r.words

def line (depth : Nat) (r : Rejection) : Line :=
  ⟨depth, .trace, .types, .text r.words⟩

end Rejection

/-- The error of a value comes from these rejections, which lead from the type of the value to the
innermost one that refuses its part. Whatever comes before a part is accepted. -/
inductive RejectedBy (classify : Classifier) : DataType → Value → DataError → List Rejection → Prop
  | here {t : DataType} {v : Value} {expected found : Shape} :
      Refuses classify t v expected.text found.text →
      RejectedBy classify t v (.mismatch expected found) [⟨t, .mismatch expected found⟩]
  | part {t u : DataType} {v w : Value} {place : Place} {cause : DataError} {rs : List Rejection} :
      PartAt classify t v place.text u w → RejectedBy classify u w cause rs →
      RejectedBy classify t v (.nested place cause) (⟨t, .nested place cause⟩ :: rs)

theorem RejectedBy.length_eq {classify : Classifier} {t : DataType} {v : Value} {e : DataError}
    {rs : List Rejection} (h : RejectedBy classify t v e rs) : rs.length = e.layers + 1 := by
  induction h with
  | here => rfl
  | part _ _ ih => rw [List.length_cons, ih, DataError.layers]

/-! ## Logs of combined checks -/

namespace Logged

variable {ε α : Type} {x : Logged ε α}

theorem log_onError_of_ok {a : α} (h : x.outcome = .ok a) (l : Level) (c : Component)
    (text : ε → String) : (x.onError l c text).log = x.log := by
  simp only [onError, h]

theorem log_onError_of_error {e : ε} (h : x.outcome = .error e) (l : Level) (c : Component)
    (text : ε → String) : (x.onError l c text).log = x.log ++ [.note l c (text e)] := by
  simp only [onError, h]

end Logged

/-- The check logs nothing if it passes. -/
def Check.Quiet (x : Check) : Prop :=
  x.outcome = .ok () → x.log = []

namespace Check.Quiet

variable {x y : Check}

theorem of_log (h : x.log = []) : x.Quiet :=
  fun _ => h

theorem mapError (h : x.Quiet) (f : DataError → DataError) : Check.Quiet (Logged.mapError f x) :=
  fun hok => h (mapError_eq_ok_iff.1 hok)

theorem log_bind (h : x.Quiet) (hok : x.outcome = .ok ()) : (x >>= fun _ => y).log = y.log := by
  rw [Logged.bind_of_ok hok, h hok, List.nil_append]

theorem bind (hx : x.Quiet) (hy : y.Quiet) : Check.Quiet (x >>= fun _ => y) := by
  intro h
  obtain ⟨hxok, hyok⟩ := check_bind_eq_ok_iff.1 h
  rw [hx.log_bind hxok, hy hyok]

theorem onError (h : x.Quiet) (l : Level) (c : Component) (text : DataError → String) :
    Check.Quiet (Logged.onError x l c text) := by
  intro hok
  rw [Logged.outcome_onError] at hok
  rw [Logged.log_onError_of_ok hok, h hok]

end Check.Quiet

section

variable {check checkKey checkValue : Option Value → Check}

theorem quiet_checkItems (h : ∀ c, (check c).Quiet) (index : Nat) (cs : List (Option Value)) :
    (checkItems check index cs).Quiet := by
  induction cs generalizing index with
  | nil => exact .of_log rfl
  | cons c cs ih => exact ((h c).mapError _).bind (ih (index + 1))

theorem quiet_checkEntries (hk : ∀ c, (checkKey c).Quiet) (hv : ∀ c, (checkValue c).Quiet)
    (es : List (Option Value × Option Value)) : (checkEntries checkKey checkValue es).Quiet := by
  induction es with
  | nil => exact .of_log rfl
  | cons e es ih => exact ((hk e.1).mapError _).bind (((hv e.2).mapError _).bind ih)

theorem mapError_nested {x : Check} {e : DataError} (h : x.outcome = .error e) (place : Place) :
    (Logged.mapError (DataError.nested place) x).outcome = .error (.nested place e) :=
  mapError_eq_error_iff.2 ⟨e, h, rfl⟩

theorem log_checkItems (h : ∀ c, (check c).Quiet) {before : List (Option Value)}
    (hbefore : ∀ c ∈ before, (check c).outcome = .ok ()) {c : Option Value} {e : DataError}
    (hc : (check c).outcome = .error e) (index : Nat) (after : List (Option Value)) :
    (checkItems check index (before ++ c :: after)).log = (check c).log := by
  induction before generalizing index with
  | nil =>
    have he := mapError_nested hc (.element index)
    rw [List.nil_append, checkItems, Logged.bind_of_error he]
    rfl
  | cons b before ih =>
    obtain ⟨hb, hbefore⟩ := List.forall_mem_cons.1 hbefore
    rw [List.cons_append, checkItems, ((h b).mapError _).log_bind (mapError_eq_ok_iff.2 hb)]
    exact ih hbefore (index + 1)

/-- Entries that pass leave no log before that of the others. -/
theorem log_checkEntries_append (hk : ∀ c, (checkKey c).Quiet) (hv : ∀ c, (checkValue c).Quiet)
    {before : List (Option Value × Option Value)}
    (hbefore : ∀ e ∈ before, (checkKey e.1).outcome = .ok () ∧ (checkValue e.2).outcome = .ok ())
    (es : List (Option Value × Option Value)) :
    (checkEntries checkKey checkValue (before ++ es)).log =
      (checkEntries checkKey checkValue es).log := by
  induction before with
  | nil => rfl
  | cons b before ih =>
    obtain ⟨⟨hbk, hbv⟩, hbefore⟩ := List.forall_mem_cons.1 hbefore
    rw [List.cons_append, checkEntries, ((hk b.1).mapError _).log_bind (mapError_eq_ok_iff.2 hbk),
      ((hv b.2).mapError _).log_bind (mapError_eq_ok_iff.2 hbv)]
    exact ih hbefore

theorem log_checkEntries_key {k : Option Value} {e : DataError}
    (h : (checkKey k).outcome = .error e) (x : Option Value)
    (after : List (Option Value × Option Value)) :
    (checkEntries checkKey checkValue ((k, x) :: after)).log = (checkKey k).log := by
  rw [checkEntries, Logged.bind_of_error (mapError_nested h .mapKey)]
  rfl

theorem log_checkEntries_value (hk : ∀ c, (checkKey c).Quiet) {k x : Option Value} {e : DataError}
    (hok : (checkKey k).outcome = .ok ()) (h : (checkValue x).outcome = .error e)
    (after : List (Option Value × Option Value)) :
    (checkEntries checkKey checkValue ((k, x) :: after)).log = (checkValue x).log := by
  rw [checkEntries, ((hk k).mapError _).log_bind (mapError_eq_ok_iff.2 hok),
    Logged.bind_of_error (mapError_nested h (.mapValue k))]
  rfl

end

/-! ## The log of a type -/

theorem log_ite_mismatch (p : Prop) [Decidable p] (expected found : Shape) :
    (if p then pure () else Check.mismatch expected found : Check).log = [] := by
  split <;> rfl

theorem DecimalType.log_check (d : DecimalType) (x : Decimal) : (d.check x).log = [] := by
  unfold DecimalType.check
  split
  · rfl
  · split <;> rfl

section

variable {classify : Classifier} {t u : DataType} {v w : Value} {e : DataError}

namespace DataType

theorem quiet_checkWith (t : DataType) (c : Option Value) : (t.checkWith classify c).Quiet := by
  cases c with
  | none => exact .of_log rfl
  | some v =>
    show (t.checkValue classify v).Quiet
    rw [checkValue.eq_def]
    apply Check.Quiet.onError
    cases t with
    | array item =>
      cases v with
      | array items => exact quiet_checkItems item.quiet_checkWith 0 items
      | _ => exact .of_log rfl
    | map key value =>
      cases v with
      | map entries => exact quiet_checkEntries key.quiet_checkWith value.quiet_checkWith entries
      | _ => exact .of_log rfl
    | decimal d =>
      cases v with
      | decimal x => exact .of_log (d.log_check x)
      | _ => exact .of_log rfl
    | struct fields =>
      cases v with
      | record slots => exact .of_log (log_ite_mismatch _ _ _)
      | _ => exact .of_log rfl
    | boolean | integer | bigint | double | string => exact .of_log (log_ite_mismatch _ _ _)

/-- A type that refuses a value notes this behind what it has looked at. -/
theorem log_of_eq_onError {body : Check}
    (hbody : t.checkValue classify v =
      body.onError .trace .types fun e => (⟨t, e⟩ : Rejection).words)
    (h : (t.checkValue classify v).outcome = .error e) :
    (t.checkValue classify v).log = body.log ++ [(⟨t, e⟩ : Rejection).entry] := by
  rw [hbody, Logged.outcome_onError] at h
  rw [hbody, Logged.log_onError_of_error h]
  rfl

end DataType

theorem Refuses.log_eq {expected found : String} (hr : Refuses classify t v expected found)
    (h : (t.checkValue classify v).outcome = .error e) :
    (t.checkValue classify v).log = [(⟨t, e⟩ : Rejection).entry] := by
  have hlog : ∀ body : Check, body.log = [] → t.checkValue classify v =
      body.onError .trace .types (fun e => (⟨t, e⟩ : Rejection).words) →
      (t.checkValue classify v).log = [(⟨t, e⟩ : Rejection).entry] := by
    intro body hnil hbody
    rw [DataType.log_of_eq_onError hbody h, hnil, List.nil_append]
  cases hr with
  | simple hsimple hkind =>
    cases t with
    | boolean | integer | bigint | double | string =>
      exact hlog _ (log_ite_mismatch _ _ _) (DataType.checkValue.eq_def _ _ _)
    | decimal | array | map | struct => cases hsimple
  | kind hsimple hkind =>
    cases t with
    | boolean | integer | bigint | double | string => cases hsimple
    | decimal | array | map | struct =>
      cases v <;> first
        | exact absurd rfl hkind
        | exact hlog _ rfl (DataType.checkValue.eq_def _ _ _)
  | @precision d x hp => exact hlog _ (d.log_check x) (DataType.checkValue.eq_def _ _ _)
  | @scale d x hp hs => exact hlog _ (d.log_check x) (DataType.checkValue.eq_def _ _ _)
  | fields hfields => exact hlog _ (log_ite_mismatch _ _ _) (DataType.checkValue.eq_def _ _ _)

/-- The log of a type whose value has a part that fails: what is logged about the part, then the
refusal of the type. -/
theorem PartAt.log_eq {words : String} {d : DataError} (hp : PartAt classify t v words u w)
    (hd : (u.checkValue classify w).outcome = .error d)
    (h : (t.checkValue classify v).outcome = .error e) :
    (t.checkValue classify v).log =
      (u.checkValue classify w).log ++ [(⟨t, e⟩ : Rejection).entry] := by
  cases hp with
  | @element _ before after _ hbefore =>
    rw [DataType.log_of_eq_onError (DataType.checkValue.eq_def _ _ _) h]
    congr 1
    exact log_checkItems (u.quiet_checkWith) hbefore (c := some w) hd 0 after
  | @mapKey _ value before after _ x hbefore =>
    rw [DataType.log_of_eq_onError (DataType.checkValue.eq_def _ _ _) h]
    congr 1
    exact (log_checkEntries_append u.quiet_checkWith value.quiet_checkWith hbefore _).trans
      (log_checkEntries_key (k := some w) hd x after)
  | @mapValue key _ before after k _ hbefore hk =>
    rw [DataType.log_of_eq_onError (DataType.checkValue.eq_def _ _ _) h]
    congr 1
    exact (log_checkEntries_append key.quiet_checkWith u.quiet_checkWith hbefore _).trans
      (log_checkEntries_value key.quiet_checkWith hk (x := some w) hd after)

/-- An error comes from rejections, and they are the log from the last to the first. The induction
is on the error, as each of its places stands for one level. -/
theorem DataError.exists_rejectedBy (h : (t.checkValue classify v).outcome = .error e) :
    ∃ rs, RejectedBy classify t v e rs ∧
      (t.checkValue classify v).log = rs.reverse.map Rejection.entry := by
  induction e generalizing t v with
  | mismatch expected found =>
    rcases DataType.refuses_or_partAt h with ⟨_, _, he, hr⟩ | ⟨_, _, _, _, he, -⟩
    · obtain ⟨rfl, rfl⟩ := DataError.mismatch.inj he
      exact ⟨_, .here hr, hr.log_eq h⟩
    · cases he
  | unknownField name =>
    rcases DataType.refuses_or_partAt h with ⟨_, _, he, -⟩ | ⟨_, _, _, _, he, -⟩ <;> cases he
  | nested place d ih =>
    rcases DataType.refuses_or_partAt h with ⟨_, _, he, -⟩ | ⟨_, u, w, _, he, hpart, hd⟩
    · cases he
    · obtain ⟨rfl, rfl⟩ := DataError.nested.inj he
      obtain ⟨rs, hrs, hlog⟩ := ih hd
      refine ⟨_, .part hpart hrs, ?_⟩
      rw [hpart.log_eq hd h, hlog, List.reverse_cons, List.map_append]
      rfl

end

theorem lines_map_entry (depth : Nat) (rs : List Rejection) :
    (⟨.trace, depth⟩ : Logger).lines (rs.map Rejection.entry) = rs.map (Rejection.line depth) := by
  induction rs with
  | nil => rfl
  | cons r rs ih =>
    rw [List.map_cons, List.map_cons, ← ih]
    rfl

/-- At level trace a check that passes writes nothing. A check that fails writes the rejections from
which its error comes, the innermost first and that of the whole value last: one line more than the
error names places, each with a type and the part of the error that is about it. -/
theorem rejection_logs_inside_out (classify : Classifier) (t : DataType) (c : Option Value)
    (depth : Nat) :
    let lines := (⟨.trace, depth⟩ : Logger).lines (t.checkWith classify c).log
    ((t.checkWith classify c).outcome = .ok () → lines = []) ∧
    ∀ e, (t.checkWith classify c).outcome = .error e →
      ∃ v rs, c = some v ∧ RejectedBy classify t v e rs ∧ rs.length = e.layers + 1 ∧
        lines = rs.reverse.map (Rejection.line depth) := by
  intro lines
  constructor
  · intro h
    show Logger.lines _ _ = []
    rw [t.quiet_checkWith c h]
    rfl
  · intro e h
    obtain ⟨v, rfl, hv⟩ := DataType.exists_value_of_error h
    obtain ⟨rs, hrs, hlog⟩ := DataError.exists_rejectedBy hv
    refine ⟨v, rs, rfl, hrs, hrs.length_eq, ?_⟩
    rw [← lines_map_entry, ← hlog]
    rfl

/-- The first entry passes and the third one is not looked at. The second element behind the key NULL
is no number, and the types around it follow from the inside out. A value of the first entry alone
is accepted without a line. -/
theorem rejection_logs_inside_out_entries :
    let t : DataType := .map .string (.array .integer)
    let entry : Option Value × Option Value := (some (.string "a"), some (.array [none]))
    let good : Value := .map [entry]
    let bad : Value := .map [entry, (none, some (.array [none, some (.boolean true)])),
      (some (.integer 1), none)]
    (t.check (some good)).outcome = .ok () ∧
    (⟨.trace, 1⟩ : Logger).lines (t.check (some good)).log = [] ∧
    (t.check (some bad)).outcome = .error (.nested (.mapValue none) (.nested (.element 1)
      (.mismatch (.kind .integer) (.kind .boolean)))) ∧
    (⟨.trace, 1⟩ : Logger).lines (t.check (some bad)).log = [
      ⟨1, .trace, .types, .text "value rejected by INTEGER: Expected INTEGER, got BOOLEAN"⟩,
      ⟨1, .trace, .types,
        .text "value rejected by ARRAY<INTEGER>: ARRAY element 2: Expected INTEGER, got BOOLEAN"⟩,
      ⟨1, .trace, .types, .text ("value rejected by MAP<STRING, ARRAY<INTEGER>>: " ++
        "MAP value for key 'NULL': ARRAY element 2: Expected INTEGER, got BOOLEAN")⟩] := by
  intro t entry good bad
  have hgood : (t.check (some good)).outcome = .ok () := rfl
  have hbad : (t.check (some bad)).outcome = .error (.nested (.mapValue none) (.nested (.element 1)
      (.mismatch (.kind .integer) (.kind .boolean)))) := rfl
  refine ⟨hgood, (rejection_logs_inside_out Value.kind t (some good) 1).1 hgood, hbad, ?_⟩
  obtain ⟨v, rs, -, hrs, -, hlines⟩ :=
    (rejection_logs_inside_out Value.kind (.map .string (.array .integer)) (some bad) 1).2 _ hbad
  rw [DataType.check, hlines]
  -- The places of the error lead to the types of the rejections.
  cases hrs with
  | part hvalue hrs =>
    generalize hword : Place.text (.mapValue none) = word at hvalue
    cases hvalue with
    | mapKey => exact absurd hword (by decide +kernel)
    | mapValue =>
      cases hrs with
      | part helement hrs =>
        generalize Place.text (.element 1) = word at helement
        cases helement
        cases hrs
        decide +kernel

end SqlSchema
