import SqlSchema.Log.Acting
import SqlSchema.Type.Struct

/-!
# Fields by name

A STRUCT that is asked for its fields by name keeps an index beside them, which tells the place of
each name without a search. Fields and index grow together and are never changed in another way, so
an `IndexedFields` carries the proof that the index leads to just the fields. The index is no part
of what a STRUCT is: two of them are equal if their fields are.

A STRUCT is built in two ways, as `Logged` work and as work that uses a logger.
-/

namespace SqlSchema

open Log

/-- Each name leads to the place of the field with this name, and no other name to any place. -/
def Leads (places : List (String × Nat)) (fields : List Field) : Prop :=
  ∀ name i, places.lookup name = some i ↔ (fields.map Field.name)[i]? = some name

/-- Fields with distinct names and an index of their places. -/
structure IndexedFields extends FieldList where
  places : List (String × Nat)
  leads : Leads places fields

namespace IndexedFields

variable {s : IndexedFields} {f : Field} {name : String}

theorem leads_nil : Leads [] [] := by
  intro name i
  simp

def empty : IndexedFields where
  fields := []
  distinct := List.nodup_nil
  places := []
  leads := leads_nil

theorem lt_of_lookup {i : Nat} (h : s.places.lookup name = some i) : i < s.fields.length := by
  obtain ⟨hi, -⟩ := List.getElem?_eq_some_iff.1 ((s.leads name i).1 h)
  simpa using hi

/-- The place of a name, as one of the places of the fields. -/
def place? (s : IndexedFields) (name : String) : Option (Fin s.fields.length) :=
  match h : s.places.lookup name with
  | some i => some ⟨i, lt_of_lookup h⟩
  | none => none

def index? (s : IndexedFields) (name : String) : Option Nat :=
  (s.place? name).map Fin.val

def field? (s : IndexedFields) (name : String) : Option Field :=
  (s.place? name).map s.fields.get

def length (s : IndexedFields) : Nat :=
  s.fields.length

def type (s : IndexedFields) : DataType :=
  .struct s.fields

/-- Equality, which does not look at the index. -/
def same (s t : IndexedFields) : Bool :=
  s.fields = t.fields

theorem place?_eq_some_iff {i : Fin s.fields.length} :
    s.place? name = some i ↔ (s.fields.get i).name = name := by
  have hi : s.places.lookup name = some i.val ↔ (s.fields.get i).name = name := by
    rw [s.leads]
    simp
  rw [← hi]
  unfold place?
  split
  · next j hj => simp [hj, Fin.ext_iff]
  · next hnone => simp [hnone]

theorem place?_eq_none_iff : s.place? name = none ↔ findField? s.fields name = none := by
  simp only [findField?, List.find?_eq_none, decide_eq_true_eq]
  constructor
  · intro h f hf hname
    obtain ⟨i, rfl⟩ := List.get_of_mem hf
    rw [place?_eq_some_iff.2 hname] at h
    cases h
  · intro h
    cases hplace : s.place? name with
    | none => rfl
    | some i => exact absurd (place?_eq_some_iff.1 hplace) (h _ (List.get_mem _ i))

theorem lookup_eq_none (h : s.place? name = none) : s.places.lookup name = none := by
  unfold place? at h
  split at h
  · cases h
  · next hnone => exact hnone

/-- The index goes on to lead to the fields when a field with a new name joins them at the end. -/
theorem leads_append (h : s.place? f.name = none) :
    Leads ((f.name, s.fields.length) :: s.places) (s.fields ++ [f]) := by
  intro name i
  rw [List.map_append, List.map_singleton, List.getElem?_append, List.length_map,
    List.lookup_cons]
  by_cases hname : name = f.name
  · -- The new name has no place yet, so it stands at the end and nowhere else.
    subst hname
    have hnone : (s.fields.map Field.name)[i]? ≠ some f.name := by
      rw [ne_eq, ← s.leads, lookup_eq_none h]
      exact nofun
    simp only [beq_self_eq_true, Option.some.injEq]
    split
    · next hi =>
      simp only [hnone, iff_false]
      omega
    · next hi =>
      simp only [List.getElem?_singleton, Option.ite_none_right_eq_some, and_true]
      omega
  · have hlast : [f.name][i - s.fields.length]? ≠ some name := by
      simp [List.getElem?_singleton, Ne.symm hname]
    rw [beq_false_of_ne hname, s.leads]
    split
    · rfl
    · next hi => simp [hlast, hi]

/-- The fields with another one at the end. -/
def push (s : IndexedFields) (f : Field) (h : s.place? f.name = none) : IndexedFields where
  fields := s.fields ++ [f]
  distinct := FieldList.distinct_append s.distinct (place?_eq_none_iff.1 h)
  places := (f.name, s.fields.length) :: s.places
  leads := leads_append h

/-- Adds a field, or refuses it if its name has a place. -/
def add (s : IndexedFields) (f : Field) : Logged TypeError IndexedFields :=
  match h : s.place? f.name with
  | some i => do
    let existing := s.fields.get i
    Logged.note .debug .struct (refusedText existing f)
    Logged.fail (.duplicateField existing f)
  | none => pure (s.push f h)

def field (s : IndexedFields) (name : String) (type : DataType) : Logged TypeError IndexedFields :=
  s.add ⟨name, type⟩

/-- Adds fields up to the first that is refused. -/
def addAll (s : IndexedFields) (fs : List Field) : Logged TypeError IndexedFields :=
  fs.foldlM add s

def build {ε : Type} (s : IndexedFields) : Logged ε IndexedFields := do
  Logged.note .trace .struct (builtText s.length)
  pure s

end IndexedFields

namespace Acting

/-- Adds a field, or refuses it if its name has a place. -/
def addField (s : IndexedFields) (f : Field) : Acting TypeError IndexedFields :=
  match h : s.place? f.name with
  | some i => do
    let existing := s.fields.get i
    note .debug .struct (refusedText existing f)
    throw (.duplicateField existing f)
  | none => pure (s.push f h)

def addFields (s : IndexedFields) (fs : List Field) : Acting TypeError IndexedFields :=
  fs.foldlM addField s

def buildFields {ε : Type} (s : IndexedFields) : Acting ε IndexedFields := do
  note .trace .struct (builtText s.length)
  pure s

end Acting

end SqlSchema
