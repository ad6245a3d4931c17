import SqlSchema.Proofs.Numbering
import SqlSchema.Proofs.Outcomes
import SqlSchema.Schema.Join

/-!
# Joins

Two sources have a join exactly if each has a single key column and the types of these are equal.
The join has the key of the left source and the value columns of both, numbered anew
(`join_outcomes`). What roles and indexes the columns had in their sources makes no difference.

Joins of more than two sources form a tree. Which of them are joined first makes no difference: a
tree of joins has a result exactly if all its sources are keyed by one type, and the result depends
on the list of the sources alone (`joinTree_results`).
-/

namespace SqlSchema

namespace StoredSchema

variable {left right joined s : StoredSchema}

/-! ## The columns of a join -/

theorem numbered_merged (key : Column) (left right : StoredSchema) :
    (merged key left right).Numbered :=
  ((numbered_empty.add .key key.name key.type).addColumns .value left.values).addColumns .value
    right.values

theorem schema_merged (key : Column) (left right : StoredSchema) :
    (merged key left right).schema =
      ⟨[key.field], left.schema.values ++ right.schema.values⟩ := by
  rw [merged, schema_addColumns, schema_addColumns, schema_add, Schema.addColumns_value,
    Schema.addColumns_value, key.mk_name_type]
  rfl

theorem keys_merged (key : Column) (left right : StoredSchema) :
    (merged key left right).keys = [⟨key.field, .key, 0⟩] := by
  have hkeys := numbered_merged key left right .key
  rwa [show (merged key left right).fields .key = [key.field] from
    congrArg Schema.keys (schema_merged key left right)] at hkeys

theorem values_merged (key : Column) (left right : StoredSchema) :
    (merged key left right).values = renumbered .value (left.values ++ right.values) := by
  have hvalues := numbered_merged key left right .value
  rwa [show (merged key left right).fields .value = (left.values ++ right.values).map Column.field from
      (congrArg Schema.values (schema_merged key left right)).trans List.map_append.symm,
    columnsFrom_map_field_eq_renumbered] at hvalues

/-! ## Joins of two sources -/

theorem soleKey_eq_ok_iff {side : Side} {k : Column} :
    s.soleKey side = .ok k ↔ s.keys = [k] := by
  unfold soleKey
  split
  · next key hkeys => simp [hkeys]
  · next keys hne =>
    constructor
    · intro h
      cases h
    · intro h
      exact absurd h (hne k)

theorem soleKey_eq_error_iff {side : Side} {e : JoinError} :
    s.soleKey side = .error e ↔ s.keys.length ≠ 1 ∧ e = .keyCount side s.keys.length := by
  unfold soleKey
  split
  · next key hkeys => simp [hkeys]
  · next keys hne =>
    have hlength : s.keys.length ≠ 1 := by
      intro h
      obtain ⟨k, hk⟩ := List.length_eq_one_iff.1 h
      exact hne k hk
    simp [hlength, eq_comm]

/-- The outcome of a join, with nothing about the log. -/
theorem outcome_join (left right : StoredSchema) :
    (left.join right).outcome = left.soleKey .left >>= fun k => right.soleKey .right >>= fun l =>
      if k.type = l.type then .ok (merged k left right)
      else .error (.keyTypeMismatch k.type l.type) := by
  simp only [join, joinUnscoped, Logged.outcome_onError, Logged.outcome_within,
    Logged.outcome_bind, Logged.outcome_ofExcept]
  congr 1
  funext k
  congr 1
  funext l
  by_cases ht : k.type = l.type
  · rw [if_pos ht, if_neg (not_not_intro ht)]
    rfl
  · rw [if_neg ht, if_pos ht]
    rfl

theorem join_eq_ok_iff : (left.join right).outcome = .ok joined ↔ ∃ k l, left.keys = [k] ∧
    right.keys = [l] ∧ k.type = l.type ∧ joined = merged k left right := by
  simp only [outcome_join, bind_eq_ok_iff, soleKey_eq_ok_iff]
  constructor
  · rintro ⟨k, hk, l, hl, h⟩
    split at h
    · next ht => exact ⟨k, l, hk, hl, ht, (Except.ok.inj h).symm⟩
    · cases h
  · rintro ⟨k, l, hk, hl, ht, rfl⟩
    exact ⟨k, hk, l, hl, if_pos ht⟩

/-- What keeps two sources from being joined. The left source is looked at first. -/
theorem join_eq_error_iff {e : JoinError} : (left.join right).outcome = .error e ↔
    (left.keys.length ≠ 1 ∧ e = .keyCount .left left.keys.length) ∨
    (left.keys.length = 1 ∧ right.keys.length ≠ 1 ∧ e = .keyCount .right right.keys.length) ∨
    ∃ k l, left.keys = [k] ∧ right.keys = [l] ∧ k.type ≠ l.type ∧
      e = .keyTypeMismatch k.type l.type := by
  simp only [outcome_join, bind_eq_error_iff, soleKey_eq_ok_iff, soleKey_eq_error_iff]
  constructor
  · rintro (h | ⟨k, hk, h | ⟨l, hl, h⟩⟩)
    · exact Or.inl h
    · exact Or.inr (Or.inl ⟨List.length_eq_one_iff.2 ⟨k, hk⟩, h⟩)
    · split at h
      · cases h
      · next ht => exact Or.inr (Or.inr ⟨k, l, hk, hl, ht, (Except.error.inj h).symm⟩)
  · rintro (h | ⟨hleft, h⟩ | ⟨k, l, hk, hl, ht, rfl⟩)
    · exact Or.inl h
    · obtain ⟨k, hk⟩ := List.length_eq_one_iff.1 hleft
      exact Or.inr ⟨k, hk, Or.inl h⟩
    · exact Or.inr ⟨k, hk, Or.inr ⟨l, hl, if_neg ht⟩⟩

end StoredSchema

/-- Two sources have a join exactly if each has a single key column and the two are of equal types.
The join has the key column of the left source, and behind each other the value columns of both,
under their names and numbered anew. Otherwise the first of these faults is reported: the left
source has no key column or several, the right source has, or the types of the keys differ. -/
theorem join_outcomes (left right : StoredSchema) :
    ((∃ joined, (left.join right).outcome = .ok joined) ↔
      ∃ k l, left.keys = [k] ∧ right.keys = [l] ∧ k.type = l.type) ∧
    (∀ joined, (left.join right).outcome = .ok joined →
      (∃ k, left.keys = [k] ∧ joined.keys = [⟨k.field, .key, 0⟩]) ∧
      joined.values = renumbered .value (left.values ++ right.values)) ∧
    (∀ e, (left.join right).outcome = .error e ↔
      (left.keys.length ≠ 1 ∧ e = .keyCount .left left.keys.length) ∨
      (left.keys.length = 1 ∧ right.keys.length ≠ 1 ∧ e = .keyCount .right right.keys.length) ∨
      ∃ k l, left.keys = [k] ∧ right.keys = [l] ∧ k.type ≠ l.type ∧
        e = .keyTypeMismatch k.type l.type) := by
  refine ⟨?_, ?_, fun e => StoredSchema.join_eq_error_iff⟩
  · simp only [StoredSchema.join_eq_ok_iff]
    constructor
    · rintro ⟨_, k, l, hk, hl, ht, -⟩
      exact ⟨k, l, hk, hl, ht⟩
    · rintro ⟨k, l, hk, hl, ht⟩
      exact ⟨_, k, l, hk, hl, ht, rfl⟩
  · intro joined h
    obtain ⟨k, l, hk, -, -, rfl⟩ := StoredSchema.join_eq_ok_iff.1 h
    exact ⟨⟨k, hk, StoredSchema.keys_merged k left right⟩,
      StoredSchema.values_merged k left right⟩

/-- Both sources have a key `K` and a value `V`, and the right one has a second `K`. All values are
kept under their names. The roles and indexes that the columns come with are not those of a join. -/
theorem join_outcomes_repeated_names :
    let left : StoredSchema := ⟨[⟨⟨"K", .array .integer⟩, .value, 4⟩], [⟨⟨"V", .string⟩, .value, 0⟩]⟩
    let right : StoredSchema := ⟨[⟨⟨"K", .array .integer⟩, .key, 0⟩],
      [⟨⟨"V", .double⟩, .value, 0⟩, ⟨⟨"K", .bigint⟩, .key, 7⟩]⟩
    ∃ joined, (left.join right).outcome = .ok joined ∧
      joined.keys = [⟨⟨"K", .array .integer⟩, .key, 0⟩] ∧
      joined.values = [⟨⟨"V", .string⟩, .value, 0⟩, ⟨⟨"V", .double⟩, .value, 1⟩,
        ⟨⟨"K", .bigint⟩, .value, 2⟩] := by
  intro left right
  obtain ⟨joined, hjoined⟩ := (join_outcomes left right).1.2 ⟨_, _, rfl, rfl, rfl⟩
  obtain ⟨⟨k, hk, hkeys⟩, hvalues⟩ := (join_outcomes left right).2.1 joined hjoined
  obtain rfl := List.singleton_inj.1 hk
  exact ⟨joined, hjoined, hkeys, hvalues⟩

/-! ## The schema that is meant -/

namespace StoredSchema

variable {left right : StoredSchema}

theorem schema_eq_of_join {joined : StoredSchema} (h : (left.join right).outcome = .ok joined) :
    joined.schema = ⟨left.schema.keys, left.schema.values ++ right.schema.values⟩ := by
  obtain ⟨k, l, hk, -, -, rfl⟩ := join_eq_ok_iff.1 h
  rw [schema_merged, schema, hk]
  rfl

theorem Numbered.of_join {joined : StoredSchema} (h : (left.join right).outcome = .ok joined) :
    joined.Numbered := by
  obtain ⟨k, l, -, -, -, rfl⟩ := join_eq_ok_iff.1 h
  exact numbered_merged k left right

end StoredSchema

namespace Schema

variable {left right joined : Schema}

/-- What is stored of a join is the join of the schemas that are meant, also in the log. -/
theorem ofSchema_join (left right : Schema) :
    StoredSchema.ofSchema <$> left.join right =
      (StoredSchema.ofSchema left).join (StoredSchema.ofSchema right) := by
  rw [join, ← comp_map]
  exact Logged.map_eq_self fun joined h =>
    (StoredSchema.Numbered.of_join h).eq_ofSchema

theorem outcome_join (left right : Schema) : (left.join right).outcome =
    ((StoredSchema.ofSchema left).join (StoredSchema.ofSchema right)).outcome.map
      StoredSchema.schema :=
  Logged.outcome_map _ _

theorem join_eq_ok_iff : (left.join right).outcome = .ok joined ↔ ∃ k l,
    left.keyColumns = [k] ∧ right.keyColumns = [l] ∧ k.type = l.type ∧
      joined = ⟨left.keys, left.values ++ right.values⟩ := by
  rw [outcome_join, map_eq_ok_iff]
  constructor
  · rintro ⟨stored, h, rfl⟩
    obtain ⟨k, l, hk, hl, ht, -⟩ := StoredSchema.join_eq_ok_iff.1 h
    refine ⟨k, l, hk, hl, ht, ?_⟩
    rw [StoredSchema.schema_eq_of_join h, StoredSchema.schema_ofSchema,
      StoredSchema.schema_ofSchema]
  · rintro ⟨k, l, hk, hl, ht, rfl⟩
    have h : ((StoredSchema.ofSchema left).join (.ofSchema right)).outcome = .ok _ :=
      StoredSchema.join_eq_ok_iff.2 ⟨k, l, hk, hl, ht, rfl⟩
    refine ⟨_, h, ?_⟩
    rw [StoredSchema.schema_eq_of_join h, StoredSchema.schema_ofSchema,
      StoredSchema.schema_ofSchema]

theorem join_eq_error_iff {e : JoinError} : (left.join right).outcome = .error e ↔
    (left.keyColumns.length ≠ 1 ∧ e = .keyCount .left left.keyColumns.length) ∨
    (left.keyColumns.length = 1 ∧ right.keyColumns.length ≠ 1 ∧
      e = .keyCount .right right.keyColumns.length) ∨
    ∃ k l, left.keyColumns = [k] ∧ right.keyColumns = [l] ∧ k.type ≠ l.type ∧
      e = .keyTypeMismatch k.type l.type := by
  rw [outcome_join, map_eq_error_iff]
  exact StoredSchema.join_eq_error_iff

end Schema

/-! ## Trees of joins -/

/-- Sources that are joined in pairs. -/
inductive JoinTree where
  | source (s : StoredSchema)
  | join (left right : JoinTree)

namespace JoinTree

/-- The sources of a tree from left to right. -/
def sources : JoinTree → List StoredSchema
  | source s => [s]
  | join left right => left.sources ++ right.sources

/-- The schema that a tree comes to, or the first error of a join in it. -/
def result : JoinTree → Logged JoinError StoredSchema
  | source s => pure s
  | join left right => do
    let l ← left.result
    let r ← right.result
    l.join r

end JoinTree

/-- The key of the first source with the values of all. -/
def combined (sources : List StoredSchema) : Schema :=
  ⟨(sources.head?.map fun s => s.schema.keys).getD [], sources.flatMap fun s => s.schema.values⟩

theorem combined_append {ss ts : List StoredSchema} (h : ss ≠ []) :
    combined (ss ++ ts) =
      ⟨(combined ss).keys, (combined ss).values ++ (combined ts).values⟩ := by
  cases ss with
  | nil => exact absurd rfl h
  | cons s ss => simp [combined]

theorem valueColumns_combined (ss : List StoredSchema) :
    (combined ss).valueColumns = renumbered .value (ss.flatMap StoredSchema.values) := by
  rw [← columnsFrom_map_field_eq_renumbered, List.map_flatMap]
  rfl

namespace StoredSchema

/-- The schema has a single key column, which is of this type. -/
def KeyedBy (s : StoredSchema) (type : DataType) : Prop :=
  ∃ k, s.keys = [k] ∧ k.type = type

theorem KeyedBy.unique {s : StoredSchema} {t u : DataType} (ht : s.KeyedBy t)
    (hu : s.KeyedBy u) : t = u := by
  obtain ⟨k, hk, rfl⟩ := ht
  obtain ⟨l, hl, rfl⟩ := hu
  rw [hk] at hl
  rw [List.singleton_inj.1 hl]

/-- A join is keyed by the type of both its sources, and it is stored as the schema that is meant. -/
theorem join_eq_ok_iff_keyedBy {left right joined : StoredSchema} :
    (left.join right).outcome = .ok joined ↔ ∃ type, left.KeyedBy type ∧ right.KeyedBy type ∧
      joined = ofSchema ⟨left.schema.keys, left.schema.values ++ right.schema.values⟩ := by
  have heq {k : Column} (hk : left.keys = [k]) : merged k left right =
      ofSchema ⟨left.schema.keys, left.schema.values ++ right.schema.values⟩ := by
    rw [← (numbered_merged k left right).eq_ofSchema, schema_merged, schema, hk]
    rfl
  rw [join_eq_ok_iff]
  constructor
  · rintro ⟨k, l, hk, hl, ht, rfl⟩
    exact ⟨l.type, ⟨k, hk, ht⟩, ⟨l, hl, rfl⟩, heq hk⟩
  · rintro ⟨type, ⟨k, hk, rfl⟩, ⟨l, hl, ht⟩, rfl⟩
    exact ⟨k, l, hk, hl, ht.symm, (heq hk).symm⟩

theorem KeyedBy.of_join {left right : StoredSchema} {type : DataType} (h : left.KeyedBy type) :
    (ofSchema ⟨left.schema.keys, left.schema.values ++ right.schema.values⟩).KeyedBy type := by
  obtain ⟨k, hk, rfl⟩ := h
  refine ⟨⟨k.field, .key, 0⟩, ?_, rfl⟩
  rw [ofSchema, schema, hk]
  rfl

end StoredSchema

namespace JoinTree

theorem sources_ne_nil (t : JoinTree) : t.sources ≠ [] := by
  cases t with
  | source s => exact List.cons_ne_nil s []
  | join left right => exact List.append_ne_nil_of_left_ne_nil left.sources_ne_nil _

theorem result_join_eq_ok_iff {left right : JoinTree} {s : StoredSchema} :
    (join left right).result.outcome = .ok s ↔ ∃ l r type, left.result.outcome = .ok l ∧
      right.result.outcome = .ok r ∧ l.KeyedBy type ∧ r.KeyedBy type ∧
      s = .ofSchema ⟨l.schema.keys, l.schema.values ++ r.schema.values⟩ := by
  simp only [result, Logged.outcome_bind, bind_eq_ok_iff, StoredSchema.join_eq_ok_iff_keyedBy]
  constructor
  · rintro ⟨l, hl, r, hr, type, hs⟩
    exact ⟨l, r, type, hl, hr, hs⟩
  · rintro ⟨l, r, type, hl, hr, hs⟩
    exact ⟨l, hl, r, hr, type, hs⟩

/-- A tree has a result keyed by a type exactly if all its sources are, and its columns are those of
the sources behind one another. The type goes along, since a source alone has a result whatever its
keys are. -/
theorem result_keyedBy_iff (t : JoinTree) {type : DataType} {schema : Schema} :
    (∃ s, t.result.outcome = .ok s ∧ s.KeyedBy type ∧ s.schema = schema) ↔
      (∀ x ∈ t.sources, x.KeyedBy type) ∧ schema = combined t.sources := by
  induction t generalizing schema with
  | source x =>
    have hcombined : combined (source x).sources = x.schema := by simp [combined, sources]
    rw [hcombined, sources, List.forall_mem_singleton]
    constructor
    · rintro ⟨s, h, hs, rfl⟩
      obtain rfl := Except.ok.inj h
      exact ⟨hs, rfl⟩
    · rintro ⟨hx, rfl⟩
      exact ⟨x, rfl, hx, rfl⟩
  | join left right ihl ihr =>
    rw [sources, combined_append left.sources_ne_nil, List.forall_mem_append]
    constructor
    · rintro ⟨s, h, hs, rfl⟩
      obtain ⟨l, r, type', hl, hr, hlt, hrt, rfl⟩ := result_join_eq_ok_iff.1 h
      obtain rfl := hs.unique hlt.of_join
      obtain ⟨hls, hleft⟩ := ihl.1 ⟨l, hl, hlt, rfl⟩
      obtain ⟨hrs, hright⟩ := ihr.1 ⟨r, hr, hrt, rfl⟩
      rw [StoredSchema.schema_ofSchema, hleft, hright]
      exact ⟨⟨hls, hrs⟩, rfl⟩
    · rintro ⟨⟨hls, hrs⟩, rfl⟩
      obtain ⟨l, hl, hlt, hleft⟩ := ihl.2 ⟨hls, rfl⟩
      obtain ⟨r, hr, hrt, hright⟩ := ihr.2 ⟨hrs, rfl⟩
      rw [← hleft, ← hright]
      exact ⟨_, result_join_eq_ok_iff.2 ⟨l, r, type, hl, hr, hlt, hrt, rfl⟩, hlt.of_join,
        StoredSchema.schema_ofSchema _⟩

theorem result_eq_ok_iff {t : JoinTree} (h : 2 ≤ t.sources.length) {s : StoredSchema} :
    t.result.outcome = .ok s ↔
      (∃ type, ∀ x ∈ t.sources, x.KeyedBy type) ∧ s = .ofSchema (combined t.sources) := by
  cases t with
  | source x => exact absurd h (by simp [sources])
  | join left right =>
    -- What a join comes to is numbered, so its schema tells all of it.
    have hstored {s : StoredSchema} (hs : (join left right).result.outcome = .ok s) :
        (∃ type, s.KeyedBy type) ∧ .ofSchema s.schema = s := by
      obtain ⟨l, r, type, -, -, hlt, -, rfl⟩ := result_join_eq_ok_iff.1 hs
      exact ⟨⟨type, hlt.of_join⟩, congrArg _ (StoredSchema.schema_ofSchema _)⟩
    constructor
    · intro hs
      obtain ⟨⟨type, ht⟩, hschema⟩ := hstored hs
      obtain ⟨hx, hcombined⟩ := (result_keyedBy_iff _).1 ⟨s, hs, ht, rfl⟩
      exact ⟨⟨type, hx⟩, by rw [← hcombined, hschema]⟩
    · rintro ⟨⟨type, hx⟩, rfl⟩
      obtain ⟨s, hs, -, hschema⟩ := (result_keyedBy_iff _).2 ⟨hx, rfl⟩
      rw [← hschema, (hstored hs).2]
      exact hs

end JoinTree

/-- A tree of joins over two or more sources has a result exactly if each source has a single key
column and all of these are of one type. The result has the key column of the first source, and
behind each other the value columns of all, numbered anew. So all trees over the same sources come
to the same. -/
theorem joinTree_results (t : JoinTree) (h : 2 ≤ t.sources.length) :
    ((∃ s, t.result.outcome = .ok s) ↔
      ∃ type, ∀ x ∈ t.sources, ∃ k, x.keys = [k] ∧ k.type = type) ∧
    (∀ s, t.result.outcome = .ok s →
      (∃ first rest k, t.sources = first :: rest ∧ first.keys = [k] ∧
        s.keys = [⟨k.field, .key, 0⟩] ∧ (first.Built → s.keys = first.keys)) ∧
      s.values = renumbered .value (t.sources.flatMap StoredSchema.values)) ∧
    (∀ u : JoinTree, u.sources = t.sources →
      ∀ s, u.result.outcome = .ok s ↔ t.result.outcome = .ok s) := by
  refine ⟨?_, ?_, ?_⟩
  · simp only [JoinTree.result_eq_ok_iff h, exists_and_left, exists_eq, and_true]
    rfl
  · intro s hs
    obtain ⟨⟨type, hx⟩, rfl⟩ := (JoinTree.result_eq_ok_iff h).1 hs
    refine ⟨?_, valueColumns_combined t.sources⟩
    obtain ⟨first, rest, hsources⟩ := List.exists_cons_of_ne_nil t.sources_ne_nil
    obtain ⟨k, hk, -⟩ := hx first (by simp [hsources])
    have hkeys : (StoredSchema.ofSchema (combined t.sources)).keys = [⟨k.field, .key, 0⟩] := by
      show (combined t.sources).keyColumns = _
      rw [hsources, combined, List.head?_cons, Option.map_some, StoredSchema.schema, hk]
      rfl
    refine ⟨first, rest, k, hsources, hk, hkeys, fun hfirst => ?_⟩
    rw [hkeys, hfirst.numbered.keys_eq, hk]
    rfl
  · intro u hu s
    have hu2 : 2 ≤ u.sources.length := by rwa [hu]
    rw [JoinTree.result_eq_ok_iff h, JoinTree.result_eq_ok_iff hu2, hu]

/-- Three sources, two of which have a value of the same name, joined from the left and from the
right. -/
theorem joinTree_results_three :
    let type : DataType := .decimal ⟨9, 2, by decide, by decide⟩
    let a : JoinTree := .source ⟨[⟨⟨"A", type⟩, .key, 0⟩], [⟨⟨"V", .string⟩, .value, 0⟩]⟩
    let b : JoinTree := .source ⟨[⟨⟨"B", type⟩, .key, 0⟩], [⟨⟨"V", .double⟩, .value, 0⟩]⟩
    let c : JoinTree := .source ⟨[⟨⟨"C", type⟩, .key, 0⟩], [⟨⟨"A", .bigint⟩, .value, 0⟩]⟩
    2 ≤ (a.join (b.join c)).sources.length ∧
      ∃ s, ((a.join b).join c).result.outcome = .ok s ∧
        (a.join (b.join c)).result.outcome = .ok s ∧
        s.values = [⟨⟨"V", .string⟩, .value, 0⟩, ⟨⟨"V", .double⟩, .value, 1⟩,
          ⟨⟨"A", .bigint⟩, .value, 2⟩] := by
  intro type a b c
  have htwo : 2 ≤ (a.join (b.join c)).sources.length := by decide
  obtain ⟨hsome, hcolumns, hother⟩ := joinTree_results (a.join (b.join c)) htwo
  obtain ⟨s, hs⟩ := hsome.2 ⟨type, by simp [JoinTree.sources, a, b, c, Column.type]⟩
  exact ⟨htwo, s, (hother ((a.join b).join c) rfl s).2 hs, hs, (hcolumns s hs).2⟩

end SqlSchema
