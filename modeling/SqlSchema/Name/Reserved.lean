import SqlSchema.Name.Basic
import SqlSchema.Text.Blank
import SqlSchema.Text.Uppercase

/-!
# Reserved words

Words that have to be quoted wherever they are used as a name. A word is compared by its upper
case form, so the case of a name does not matter.
-/

namespace SqlSchema

/-- A set of reserved words, in ascending order of their upper case forms. -/
structure ReservedWords where
  words : List String := []
  deriving DecidableEq

namespace ReservedWords

/-- Adds a word to an ascending list that may already hold it. -/
def insertWord (word : String) : List String → List String
  | [] => [word]
  | w :: ws =>
    if word = w then w :: ws
    else if word < w then word :: w :: ws
    else w :: insertWord word ws

def none : ReservedWords := {}

/-- The set of the given words. Blanks around a word do not belong to it, and an empty word is no
word. -/
def ofList (words : List String) : ReservedWords :=
  let names := (words.map fun w => Text.uppercase (Text.trim w)).filter (· ≠ "")
  ⟨names.foldr insertWord []⟩

/-- The word is reserved, in whatever case it is written. -/
def contains (reserved : ReservedWords) (word : String) : Bool :=
  reserved.words.contains (Text.uppercase word)

/-- The written form of a name: quoted if it is reserved or no identifier. -/
def escape (reserved : ReservedWords) (name : String) : String :=
  if Name.isIdentifier name && !reserved.contains name then name else Name.quote name

theorem mem_insertWord {word w : String} {ws : List String} :
    w ∈ insertWord word ws ↔ w = word ∨ w ∈ ws := by
  induction ws with
  | nil => simp [insertWord]
  | cons v vs ih =>
    unfold insertWord
    split
    · subst_vars
      simp
    · split
      · simp
      · simp only [List.mem_cons, ih]
        constructor <;> rintro (h | h | h) <;> simp [h]

theorem mem_words_ofList {w : String} {words : List String} :
    w ∈ (ofList words).words ↔ w ≠ "" ∧ ∃ v ∈ words, Text.uppercase (Text.trim v) = w := by
  have foldr_mem : ∀ names : List String, w ∈ names.foldr insertWord [] ↔ w ∈ names := by
    intro names
    induction names with
    | nil => simp
    | cons name names ih => simp [mem_insertWord, ih]
  simp [ofList, foldr_mem, and_comm]

end ReservedWords

end SqlSchema
