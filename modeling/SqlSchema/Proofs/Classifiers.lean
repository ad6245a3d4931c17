import SqlSchema.Proofs.Conformance

/-!
# Classifiers and verdicts

A classifier is there to name what a check refuses. Decimal types, containers and STRUCT ask it for
nothing else, but a simple type accepts a value by what the classifier calls it. So a check with a
classifier comes to the verdicts of the check without one exactly if the classifier tells the kinds
of the simple types that the check can meet (`accepts_iff_tells`). Otherwise some value that fits is
refused, or one that does not fit passes and may get into a record.
-/

namespace SqlSchema

open Log

/-- The kinds of the simple types that a check meets inside of a type. It does not look into the
fields of a STRUCT. -/
def DataType.simpleKinds : DataType → List Kind
  | .decimal _ => []
  | .array item => item.simpleKinds
  | .map key value => key.simpleKinds ++ value.simpleKinds
  | .struct _ => []
  | simple => [simple.kind]

/-- The classifier tells the values of each of these kinds from all other values. -/
def Classifier.Tells (classify : Classifier) (kinds : List Kind) : Prop :=
  ∀ k ∈ kinds, ∀ v, classify v = k ↔ v.kind = k

/-- Both errors have the same places and expected the same. What they found may differ. -/
inductive DataError.SameButFound : DataError → DataError → Prop
  | mismatch (expected found found' : Shape) :
      SameButFound (.mismatch expected found) (.mismatch expected found')
  | unknownField (name : String) : SameButFound (.unknownField name) (.unknownField name)
  | nested (place : Place) {d e : DataError} : SameButFound d e →
      SameButFound (.nested place d) (.nested place e)

/-- Both outcomes are the same success, or errors that differ at most in what they found. -/
inductive SameVerdict {α : Type} : Except DataError α → Except DataError α → Prop
  | ok (a : α) : SameVerdict (.ok a) (.ok a)
  | error {d e : DataError} : d.SameButFound e → SameVerdict (.error d) (.error e)

/-! ## Combined verdicts -/

theorem DataError.SameButFound.refl (e : DataError) : e.SameButFound e := by
  induction e with
  | mismatch expected found => exact .mismatch expected found found
  | unknownField name => exact .unknownField name
  | nested place e ih => exact .nested place ih

namespace SameVerdict

variable {α β : Type}

theorem refl (x : Except DataError α) : SameVerdict x x := by
  cases x with
  | ok a => exact .ok a
  | error e => exact .error (.refl e)

theorem ok_iff {x y : Except DataError α} (h : SameVerdict x y) (a : α) :
    x = .ok a ↔ y = .ok a := by
  cases h with
  | ok b => exact Iff.rfl
  | error => exact ⟨fun hx => (nomatch hx), fun hy => (nomatch hy)⟩

theorem mismatch (expected found found' : Shape) :
    SameVerdict (Check.mismatch expected found).outcome (Check.mismatch expected found').outcome :=
  .error (.mismatch expected found found')

theorem nested {x y : Except DataError α} (h : SameVerdict x y) (place : Place) :
    SameVerdict (x.mapError (.nested place)) (y.mapError (.nested place)) := by
  cases h with
  | ok a => exact .ok a
  | error h => exact .error (.nested place h)

theorem bind {x y : Except DataError α} {f g : α → Except DataError β} (h : SameVerdict x y)
    (hfg : ∀ a, SameVerdict (f a) (g a)) : SameVerdict (x >>= f) (y >>= g) := by
  cases h with
  | ok a => exact hfg a
  | error h => exact .error h

theorem items {check check' : Option Value → Check}
    (h : ∀ c, SameVerdict (check c).outcome (check' c).outcome) (index : Nat)
    (cs : List (Option Value)) :
    SameVerdict (checkItems check index cs).outcome (checkItems check' index cs).outcome := by
  induction cs generalizing index with
  | nil => exact .refl _
  | cons c cs ih =>
    simp only [checkItems, Logged.outcome_bind, Logged.outcome_mapError]
    exact ((h c).nested _).bind fun _ => ih (index + 1)

theorem entries {checkKey checkKey' checkValue checkValue' : Option Value → Check}
    (hk : ∀ c, SameVerdict (checkKey c).outcome (checkKey' c).outcome)
    (hv : ∀ c, SameVerdict (checkValue c).outcome (checkValue' c).outcome)
    (es : List (Option Value × Option Value)) :
    SameVerdict (checkEntries checkKey checkValue es).outcome
      (checkEntries checkKey' checkValue' es).outcome := by
  induction es with
  | nil => exact .refl _
  | cons e es ih =>
    obtain ⟨k, v⟩ := e
    simp only [checkEntries, Logged.outcome_bind, Logged.outcome_mapError]
    exact ((hk k).nested _).bind fun _ => ((hv v).nested _).bind fun _ => ih

theorem simple {classify : Classifier} {k : Kind} (h : classify.Tells [k]) (v : Value) :
    SameVerdict
      (if classify v = k then pure () else
        Check.mismatch (.kind k) (.kind (classify v)) : Check).outcome
      (if v.kind = k then pure () else
        Check.mismatch (.kind k) (.kind v.kind) : Check).outcome := by
  have hv : classify v = k ↔ v.kind = k := h k (List.mem_singleton.2 rfl) v
  by_cases hk : v.kind = k
  · rw [if_pos hk, if_pos (hv.2 hk)]
    exact .ok ()
  · rw [if_neg hk, if_neg fun hc => hk (hv.1 hc)]
    exact .mismatch _ _ _

end SameVerdict

/-! ## Verdicts of types -/

namespace DataType

variable {classify : Classifier}

/-- A classifier that tells the kinds of the simple types inside of a type only names values. -/
theorem sameVerdict (t : DataType) (h : classify.Tells t.simpleKinds) (c : Option Value) :
    SameVerdict (t.checkWith classify c).outcome (t.check c).outcome := by
  cases c with
  | none => exact .ok ()
  | some v =>
    show SameVerdict (t.checkValue classify v).outcome (t.checkValue Value.kind v).outcome
    cases t with
    | decimal d =>
      simp only [checkValue, Logged.outcome_onError]
      cases v with
      | decimal x => exact .refl _
      | _ => exact .mismatch _ _ _
    | array item =>
      simp only [checkValue, Logged.outcome_onError]
      cases v with
      | array items => exact .items (item.sameVerdict h) 0 items
      | _ => exact .mismatch _ _ _
    | map key value =>
      have hk : classify.Tells key.simpleKinds := fun k hk => h k (List.mem_append_left _ hk)
      have hv : classify.Tells value.simpleKinds := fun k hk => h k (List.mem_append_right _ hk)
      simp only [checkValue, Logged.outcome_onError]
      cases v with
      | map entries => exact .entries (key.sameVerdict hk) (value.sameVerdict hv) entries
      | _ => exact .mismatch _ _ _
    | struct fields =>
      simp only [checkValue, Logged.outcome_onError]
      cases v with
      | record slots => exact .refl _
      | _ => exact .mismatch _ _ _
    | boolean | integer | bigint | double | string =>
      simp only [checkValue, Logged.outcome_onError]
      exact .simple h v

theorem checkKind_eq_ok_iff {found k : Kind} :
    (if found = k then pure () else Check.mismatch (.kind k) (.kind found) : Check).outcome =
      .ok () ↔ found = k := by
  by_cases h : found = k
  · simp [h]
  · simp [h, Check.mismatch]

end DataType

/-- A type accepts the same values with a classifier as without one. -/
def Classifier.AcceptsAs (classify : Classifier) (t : DataType) : Prop :=
  ∀ c, (t.checkWith classify c).outcome = .ok () ↔ (t.check c).outcome = .ok ()

/-- If a type accepts the same values with a classifier, the classifier tells the kinds of the
simple types inside of it. -/
theorem Classifier.AcceptsAs.tells {classify : Classifier} :
    {t : DataType} → classify.AcceptsAs t → classify.Tells t.simpleKinds
  | .decimal _, _ => fun _ hk => nomatch hk
  | .struct _, _ => fun _ hk => nomatch hk
  | .array item, h => by
    have hitem : classify.AcceptsAs item := by
      intro c
      have hc := h (some (.array [c]))
      rw [DataType.checkWith_array_eq_ok_iff, DataType.check_array_eq_ok_iff,
        List.forall_mem_singleton, List.forall_mem_singleton] at hc
      exact hc
    exact hitem.tells
  | .map key value, h => by
    -- An entry with NULL for its value shows the verdict on the key alone, and the other way round.
    have hentry (e : Option Value × Option Value) := h (some (.map [e]))
    simp only [DataType.checkWith_map_eq_ok_iff, DataType.check_map_eq_ok_iff,
      List.forall_mem_singleton] at hentry
    have hkey : classify.AcceptsAs key := by
      intro c
      have hc := hentry (c, none)
      have hnone : (value.checkWith classify none).outcome = .ok () := rfl
      have hnone' : (value.check none).outcome = .ok () := rfl
      simpa only [hnone, hnone', and_true] using hc
    have hvalue : classify.AcceptsAs value := by
      intro c
      have hc := hentry (none, c)
      have hnone : (key.checkWith classify none).outcome = .ok () := rfl
      have hnone' : (key.check none).outcome = .ok () := rfl
      simpa only [hnone, hnone', true_and] using hc
    intro k hk
    rcases List.mem_append.1 hk with hk | hk
    · exact hkey.tells k hk
    · exact hvalue.tells k hk
  | .boolean, h | .integer, h | .bigint, h | .double, h | .string, h => by
    intro k hk v
    obtain rfl := List.mem_singleton.1 hk
    have hv := h (some v)
    simp only [DataType.check, DataType.checkWith, checkCell, DataType.checkValue,
      Logged.outcome_onError, DataType.checkKind_eq_ok_iff] at hv
    exact hv

theorem accepts_iff_tells {classify : Classifier} {t : DataType} :
    classify.AcceptsAs t ↔ classify.Tells t.simpleKinds :=
  ⟨fun h => h.tells, fun h c => (t.sameVerdict h c).ok_iff ()⟩

/-! ## Verdicts on setting fields -/

namespace Record

variable {classify : Classifier} {r : Record} {name : String}

theorem sameVerdict_setWith
    (h : ∀ f, findField? r.fields name = some f → classify.Tells f.type.simpleKinds)
    (c : Option Value) :
    SameVerdict (r.setWith classify name c).outcome (r.set name c).outcome := by
  unfold set setWith
  cases hf : findField? r.fields name with
  | none => exact .refl _
  | some f =>
    simp only [Logged.outcome_bind, Logged.outcome_mapError]
    exact ((f.type.sameVerdict (h f hf) c).nested _).bind fun _ => .refl _

/-- If a field takes the same values with a classifier, the classifier tells the kinds of the simple
types inside of its type. -/
theorem tells_of_setWith
    (h : ∀ c, (∃ r', (r.setWith classify name c).outcome = .ok r') ↔
      ∃ r', (r.set name c).outcome = .ok r')
    {f : Field} (hf : findField? r.fields name = some f) :
    classify.Tells f.type.simpleKinds := by
  refine accepts_iff_tells.1 fun c => ?_
  have hc := h c
  simpa only [setWith_eq_ok_iff, set_eq_ok_iff, hf, Option.some.injEq, exists_eq_left',
    exists_and_left, exists_eq', and_true] using hc

end Record

/-- A classifier comes to the verdicts of the check without one, on a type or on a field of a
record, exactly if it tells the kinds of the simple types inside. Then errors differ at most in what
they found. -/
theorem classifier_verdicts (classify : Classifier) :
    (∀ t : DataType, classify.AcceptsAs t ↔ classify.Tells t.simpleKinds) ∧
    (∀ t : DataType, classify.Tells t.simpleKinds →
      ∀ c, SameVerdict (t.checkWith classify c).outcome (t.check c).outcome) ∧
    (∀ (r : Record) (name : String),
      (∀ c, (∃ r', (r.setWith classify name c).outcome = .ok r') ↔
        ∃ r', (r.set name c).outcome = .ok r') ↔
      ∀ f, findField? r.fields name = some f → classify.Tells f.type.simpleKinds) ∧
    (∀ (r : Record) (name : String),
      (∀ f, findField? r.fields name = some f → classify.Tells f.type.simpleKinds) →
      ∀ c, SameVerdict (r.setWith classify name c).outcome (r.set name c).outcome) := by
  refine ⟨fun t => accepts_iff_tells, fun t => t.sameVerdict, fun r name => ⟨?_, ?_⟩,
    fun r name => Record.sameVerdict_setWith⟩
  · intro h f hf
    exact Record.tells_of_setWith h hf
  · intro h c
    have hv := Record.sameVerdict_setWith h c
    simp only [hv.ok_iff]

/-- A classifier that tells integers and has one name for all other values comes to the verdicts on
arrays of integers, and shows this name in an error. -/
theorem classifier_verdicts_integers :
    let classify : Classifier := fun v => if v.kind = .integer then .integer else .map
    classify.Tells (DataType.array .integer).simpleKinds ∧
    (∀ c, SameVerdict ((DataType.array .integer).checkWith classify c).outcome
      ((DataType.array .integer).check c).outcome) ∧
    ((DataType.array .integer).checkWith classify (some (.array [some (.string "x")]))).outcome =
      .error (.nested (.element 0) (.mismatch (.kind .integer) (.kind .map))) := by
  intro classify
  have htells : classify.Tells (DataType.array .integer).simpleKinds := by
    intro k hk v
    obtain rfl := List.mem_singleton.1 hk
    show (if v.kind = .integer then Kind.integer else .map) = .integer ↔ v.kind = .integer
    by_cases hv : v.kind = .integer <;> simp [hv]
  exact ⟨htells, (classifier_verdicts classify).2.1 _ htells, rfl⟩

/-- With a classifier that calls everything a text, INTEGER refuses a number. With one that calls
everything an integer, an INTEGER field takes a text, and the record is not sound. -/
theorem classifier_decides_integer :
    (DataType.integer.check (some (.integer 1))).outcome = .ok () ∧
    (DataType.integer.checkWith (fun _ => .string) (some (.integer 1))).outcome =
      .error (.mismatch (.kind .integer) (.kind .string)) ∧
    (∃ r, ((Record.blank [⟨"n", .integer⟩]).setWith (fun _ => .integer) "n"
      (some (.string "one"))).outcome = .ok r ∧ ¬ r.Sound) ∧
    ¬ ∃ r, ((Record.blank [⟨"n", .integer⟩]).set "n" (some (.string "one"))).outcome = .ok r := by
  refine ⟨rfl, rfl, ⟨⟨[(⟨"n", .integer⟩, some (.string "one"))]⟩, rfl, ?_⟩, ?_⟩
  · intro hr
    have hfits : Fits .integer (some (.string "one")) := hr.fits _ List.mem_cons_self
    cases hfits
  · rintro ⟨r, hr⟩
    cases hr

end SqlSchema
