import SqlSchema.Proofs.Nesting
import SqlSchema.Type.Text

/-!
# The parts of a written type

All types in the text of a type, in reading order, each with its level and its place. The outermost
type is a part at the first level.
-/

namespace SqlSchema

/-- A type in the text of a type: its level, and the byte offset at which its own text starts. -/
structure Part where
  type : DataType
  level : Nat
  offset : Nat

mutual

/-- The parts of a type at a level, whose text stands at the offset `n`. -/
def DataType.parts (reserved : ReservedWords) (level n : Nat) : DataType → List Part
  | .array item => ⟨.array item, level, n⟩ :: item.parts reserved (level + 1) (n + 6)
  | .map key value => ⟨.map key value, level, n⟩ :: (key.parts reserved (level + 1) (n + 4) ++
      value.parts reserved (level + 1) (n + 4 + (key.render reserved).utf8ByteSize + 2))
  | .struct fields => ⟨.struct fields, level, n⟩ :: fieldParts reserved (level + 1) (n + 7) fields
  | t => [⟨t, level, n⟩]

/-- The parts of the types of fields, whose texts stand from the offset `n` on. -/
def fieldParts (reserved : ReservedWords) (level n : Nat) : List Field → List Part
  | [] => []
  | ⟨name, type⟩ :: fs =>
    let start := n + (reserved.escape name).utf8ByteSize + 1
    type.parts reserved level start ++
      fieldParts reserved level (start + (type.render reserved).utf8ByteSize + 2) fs

end

/-- The text of the part stands in a text at its offset, which counts from `n` on. -/
def Part.StandsIn (p : Part) (reserved : ReservedWords) (n : Nat) (text : String) : Prop :=
  ∃ before behind, text = before ++ p.type.render reserved ++ behind ∧
    p.offset = n + before.utf8ByteSize

namespace Part.StandsIn

variable {p : Part} {reserved : ReservedWords} {n : Nat} {text : String}

/-- A part of a piece of a text is a part of the text. -/
theorem within {s : String} (h : p.StandsIn reserved (n + s.utf8ByteSize) text)
    (rest : String) : p.StandsIn reserved n (s ++ text ++ rest) := by
  obtain ⟨before, behind, rfl, hp⟩ := h
  refine ⟨s ++ before, behind ++ rest, ?_, ?_⟩
  · simp only [String.append_assoc]
  · rw [hp, String.utf8ByteSize_append, Nat.add_assoc]

theorem le_offset (h : p.StandsIn reserved n text) : n ≤ p.offset := by
  obtain ⟨before, behind, -, hp⟩ := h
  omega

theorem offset_le (h : p.StandsIn reserved n text) : p.offset ≤ n + text.utf8ByteSize := by
  obtain ⟨before, behind, rfl, hp⟩ := h
  simp only [String.utf8ByteSize_append]
  omega

end Part.StandsIn

theorem standsIn_self (t : DataType) (reserved : ReservedWords) (level n : Nat) :
    Part.StandsIn ⟨t, level, n⟩ reserved n (t.render reserved) :=
  ⟨"", "", by simp, by simp⟩

mutual

theorem DataType.standsIn_of_mem_parts {reserved : ReservedWords} {level n : Nat} {p : Part}
    (t : DataType) (hp : p ∈ t.parts reserved level n) :
    p.StandsIn reserved n (t.render reserved) := by
  cases t with
  | boolean | integer | bigint | double | string | decimal =>
    obtain rfl := List.mem_singleton.1 hp
    exact standsIn_self _ reserved level n
  | array item =>
    rcases List.mem_cons.1 hp with rfl | hp
    · exact standsIn_self _ reserved level n
    · have h := item.standsIn_of_mem_parts hp
      exact h.within (s := "ARRAY<") ">"
  | map key value =>
    rcases List.mem_cons.1 hp with rfl | hp
    · exact standsIn_self _ reserved level n
    · rcases List.mem_append.1 hp with hp | hp
      · have h := (key.standsIn_of_mem_parts hp).within (s := "MAP<")
          (", " ++ value.render reserved ++ ">")
        simpa only [DataType.render, String.append_assoc] using h
      · have h := value.standsIn_of_mem_parts hp
        have hsize : n + 4 + (key.render reserved).utf8ByteSize + 2 =
            n + ("MAP<" ++ key.render reserved ++ ", ").utf8ByteSize := by
          simp only [String.utf8ByteSize_append]
          show _ = n + (4 + _ + 2)
          omega
        rw [hsize] at h
        exact h.within ">"
  | struct fields =>
    rcases List.mem_cons.1 hp with rfl | hp
    · exact standsIn_self _ reserved level n
    · have h := standsIn_of_mem_fieldParts fields hp
      cases fields with
      | nil => cases hp
      | cons f fs => exact h.within (s := "STRUCT<") ">"

theorem standsIn_of_mem_fieldParts {reserved : ReservedWords} {level n : Nat} {p : Part}
    (fs : List Field) (hp : p ∈ fieldParts reserved level n fs) :
    p.StandsIn reserved n (", ".intercalate (renderFields reserved fs)) := by
  cases fs with
  | nil => cases hp
  | cons f fs =>
    obtain ⟨name, type⟩ := f
    have hsize : (reserved.escape name ++ " ").utf8ByteSize =
        (reserved.escape name).utf8ByteSize + 1 := by
      rw [String.utf8ByteSize_append]
      rfl
    rcases List.mem_append.1 hp with hp | hp
    · have h := type.standsIn_of_mem_parts hp
      rw [Nat.add_assoc, ← hsize] at h
      cases fs with
      | nil => simpa [renderFields, Field.render] using h.within ""
      | cons g gs =>
        have h := h.within (", " ++ ", ".intercalate (renderFields reserved (g :: gs)))
        simpa only [renderFields, Field.render, String.intercalate_cons_cons,
          String.append_assoc] using h
    · have h := standsIn_of_mem_fieldParts fs hp
      cases fs with
      | nil => cases hp
      | cons g gs =>
        have hstart : n + (reserved.escape name).utf8ByteSize + 1 +
              (type.render reserved).utf8ByteSize + 2 =
            n + (reserved.escape name ++ " " ++ type.render reserved ++ ", ").utf8ByteSize := by
          rw [String.utf8ByteSize_append, String.utf8ByteSize_append, hsize]
          show _ = n + (_ + 2)
          omega
        rw [hstart] at h
        have h := h.within ""
        simpa only [renderFields, Field.render, String.intercalate_cons_cons,
          String.append_assoc, String.append_empty] using h

end

mutual

theorem DataType.pairwise_parts (reserved : ReservedWords) (level n : Nat) (t : DataType) :
    (t.parts reserved level n).Pairwise fun p q => p.offset < q.offset := by
  cases t with
  | boolean | integer | bigint | double | string | decimal => exact List.pairwise_singleton _ _
  | array item =>
    refine List.pairwise_cons.2 ⟨?_, item.pairwise_parts reserved _ _⟩
    intro q hq
    have h := (item.standsIn_of_mem_parts hq).le_offset
    show n < q.offset
    omega
  | map key value =>
    refine List.pairwise_cons.2 ⟨?_, List.pairwise_append.2
      ⟨key.pairwise_parts reserved _ _, value.pairwise_parts reserved _ _, ?_⟩⟩
    · intro q hq
      show n < q.offset
      rcases List.mem_append.1 hq with hq | hq
      · have h := (key.standsIn_of_mem_parts hq).le_offset
        omega
      · have h := (value.standsIn_of_mem_parts hq).le_offset
        omega
    · intro p hp q hq
      have h := (key.standsIn_of_mem_parts hp).offset_le
      have h' := (value.standsIn_of_mem_parts hq).le_offset
      omega
  | struct fields =>
    refine List.pairwise_cons.2 ⟨?_, pairwise_fieldParts reserved _ _ fields⟩
    intro q hq
    have h := (standsIn_of_mem_fieldParts fields hq).le_offset
    show n < q.offset
    omega

theorem pairwise_fieldParts (reserved : ReservedWords) (level n : Nat) (fs : List Field) :
    (fieldParts reserved level n fs).Pairwise fun p q => p.offset < q.offset := by
  cases fs with
  | nil => exact List.Pairwise.nil
  | cons f fs =>
    obtain ⟨name, type⟩ := f
    refine List.pairwise_append.2
      ⟨type.pairwise_parts reserved _ _, pairwise_fieldParts reserved _ _ fs, ?_⟩
    intro p hp q hq
    have h := (type.standsIn_of_mem_parts hp).offset_le
    have h' := (standsIn_of_mem_fieldParts fs hq).le_offset
    omega

end

end SqlSchema
