import Mathlib.Data.List.DropRight
import SqlSchema.Proofs.Lexemes
import SqlSchema.Shell.Command

/-!
# Reading commands

Blanks at the ends of a line, behind its first word and around the semicolon of a join make no
difference. So a line that starts with a word and a blank is the command of this word with what
follows (`outcome_read_word`), and for `join` what follows is cut at its first semicolon
(`outcome_read_join`).
-/

namespace SqlSchema.Text

/-! ## Blanks at the ends -/

/-- No blank stands at an end. -/
def Trimmed (cs : List Char) : Prop :=
  (∀ c ∈ cs.head?, isBlank c = false) ∧ ∀ c ∈ cs.getLast?, isBlank c = false

theorem trimChars_eq (cs : List Char) :
    trimChars cs = (dropBlanks cs).rdropWhile isBlank := rfl

theorem dropBlanks_append_cons {c : Char} (hc : isBlank c = false) (u v : List Char) :
    dropBlanks (u ++ c :: v) = dropBlanks u ++ c :: v := by
  induction u with
  | nil => simp [dropBlanks, hc]
  | cons d u ih =>
    by_cases hd : isBlank d
    · simpa [dropBlanks, hd] using ih
    · simp [dropBlanks, hd]

theorem rdropWhile_append_cons {c : Char} (hc : isBlank c = false) (u v : List Char) :
    (u ++ c :: v).rdropWhile isBlank = u ++ c :: v.rdropWhile isBlank := by
  have h := dropBlanks_append_cons hc v.reverse u.reverse
  rw [dropBlanks] at h
  rw [List.rdropWhile, List.reverse_append, List.reverse_cons, List.append_assoc,
    List.singleton_append, h]
  simp [List.rdropWhile, dropBlanks]

/-- What stands around a character that is no blank is trimmed at the outer ends. -/
theorem trimChars_append_cons {c : Char} (hc : isBlank c = false) (u v : List Char) :
    trimChars (u ++ c :: v) = dropBlanks u ++ c :: v.rdropWhile isBlank := by
  rw [trimChars_eq, dropBlanks_append_cons hc, rdropWhile_append_cons hc]

theorem trimChars_blanks_append {l : List Char} (hl : ∀ c ∈ l, isBlank c) (cs : List Char) :
    trimChars (l ++ cs) = trimChars cs := by
  rw [trimChars_eq, trimChars_eq, dropBlanks, List.dropWhile_append_of_pos hl, dropBlanks]

theorem rdropWhile_append_blanks {l : List Char} (hl : ∀ c ∈ l, isBlank c) (cs : List Char) :
    (cs ++ l).rdropWhile isBlank = cs.rdropWhile isBlank := by
  rw [List.rdropWhile, List.reverse_append, List.dropWhile_append_of_pos, List.rdropWhile]
  intro c hc
  exact hl c (List.mem_reverse.1 hc)

theorem trimChars_append_blanks {l : List Char} (hl : ∀ c ∈ l, isBlank c) (cs : List Char) :
    trimChars (cs ++ l) = trimChars cs := by
  induction cs with
  | nil =>
    rw [List.nil_append, trimChars_eq, dropBlanks, List.dropWhile_eq_nil_iff.2 hl]
    rfl
  | cons c cs ih =>
    by_cases hc : isBlank c
    · have hblank : ∀ d ∈ [c], isBlank d := by simpa using hc
      exact (trimChars_blanks_append hblank (cs ++ l)).trans
        (ih.trans (trimChars_blanks_append hblank cs).symm)
    · have hc' : isBlank c = false := by simpa using hc
      have hfirst (ds : List Char) : trimChars (c :: ds) = c :: ds.rdropWhile isBlank :=
        trimChars_append_cons hc' [] ds
      rw [List.cons_append, hfirst, hfirst, rdropWhile_append_blanks hl]

theorem trimChars_dropBlanks (cs : List Char) : trimChars (dropBlanks cs) = trimChars cs := by
  rw [trimChars_eq, trimChars_eq, dropBlanks, dropBlanks, List.dropWhile_idempotent]

theorem trimChars_rdropWhile (cs : List Char) :
    trimChars (cs.rdropWhile isBlank) = trimChars cs := by
  have hblanks : ∀ c ∈ cs.rtakeWhile isBlank, isBlank c := fun c hc => List.mem_rtakeWhile_imp hc
  rw [← trimChars_append_blanks hblanks, List.rdropWhile_append_rtakeWhile]

theorem Trimmed.trimChars_eq {cs : List Char} (h : Trimmed cs) : trimChars cs = cs := by
  have hdrop : dropBlanks cs = cs := by
    cases cs with
    | nil => rfl
    | cons c cs => simp [dropBlanks, h.1 c rfl]
  rw [Text.trimChars_eq, hdrop, List.rdropWhile_eq_self_iff]
  intro hne
  simpa using h.2 _ (List.getLast?_eq_some_getLast hne)

theorem Trimmed.append {l r : List Char} (hl : Trimmed l) (hr : Trimmed r) (hlne : l ≠ [])
    (hrne : r ≠ []) (m : List Char) : Trimmed (l ++ m ++ r) := by
  constructor
  · rw [List.append_assoc, List.head?_append_of_ne_nil _ hlne]
    exact hl.1
  · rw [List.getLast?_append_of_ne_nil _ hrne]
    exact hr.2

theorem cut_append_cons {c : Char} {x : List Char} (hx : c ∉ x) (y : List Char) :
    (x ++ c :: y).takeWhile (fun d => decide (d ≠ c)) = x ∧
      (x ++ c :: y).dropWhile (fun d => decide (d ≠ c)) = c :: y := by
  refine Syntax.takeWhile_append_of_ends ?_ (by simp)
  intro d hd
  simp only [decide_eq_true_eq]
  rintro rfl
  exact hx hd

end SqlSchema.Text

namespace SqlSchema.Shell.Command

open Log Syntax Text

/-! ## The first word -/

/-- A line that starts with a word and a blank is this word and the rest, whatever blanks are
around them. -/
theorem splitWord_trimChars {word : List Char} (hne : word ≠ [])
    (hw : ∀ c ∈ word, isBlank c = false) {b : Char} (hb : isBlank b) (cs : List Char) :
    splitWord (trimChars (word ++ b :: cs)) = (word, trimChars cs) := by
  obtain ⟨w, c, rfl⟩ : ∃ w c, word = w ++ [c] := ⟨_, _, (List.dropLast_append_getLast hne).symm⟩
  have hc : isBlank c = false := hw c (by simp)
  have hstart : dropBlanks w = w := by
    cases w with
    | nil => rfl
    | cons d w => simp [dropBlanks, hw d (by simp)]
  have htrim : trimChars (w ++ [c] ++ b :: cs) = w ++ [c] ++ (b :: cs).rdropWhile isBlank := by
    rw [List.append_assoc, List.singleton_append, trimChars_append_cons hc, hstart]
    simp
  have hrest : ∀ d ∈ ((b :: cs).rdropWhile isBlank).head?, (!isBlank d) = false := by
    intro d hd
    have hprefix := List.rdropWhile_prefix isBlank (l := b :: cs)
    cases hr : (b :: cs).rdropWhile isBlank with
    | nil => simp [hr] at hd
    | cons e es =>
      rw [hr] at hd hprefix
      obtain rfl := Option.some.inj hd
      obtain ⟨rfl, -⟩ := List.cons_prefix_cons.1 hprefix
      simp [hb]
  obtain ⟨htake, hdrop⟩ := takeWhile_append_of_ends (p := fun c => !isBlank c)
    (fun d hd => by simp [hw d hd]) hrest
  have hblank : ∀ d ∈ [b], isBlank d := by simpa using hb
  rw [htrim, splitWord, htake, hdrop, trimChars_rdropWhile]
  exact congrArg _ (trimChars_blanks_append hblank cs)

/-! ## The sources of a join -/

theorem splitSources_append {x : List Char} (hx : ';' ∉ x) (y : List Char) :
    splitSources (x ++ ';' :: y) = some (trimChars x, trimChars y) := by
  obtain ⟨htake, hdrop⟩ := cut_append_cons hx y
  rw [splitSources, htake, hdrop]

theorem splitSources_trimChars {x : List Char} (hx : ';' ∉ x) (y : List Char) :
    splitSources (trimChars (x ++ ';' :: y)) = some (trimChars x, trimChars y) := by
  have hx' : ';' ∉ dropBlanks x := fun h => hx (List.dropWhile_subset _ h)
  rw [trimChars_append_cons (by decide), splitSources_append hx', trimChars_dropBlanks,
    trimChars_rdropWhile]

/-! ## Lines -/

theorem outcome_read_word {word : List Char} (hne : word ≠ [])
    (hw : ∀ c ∈ word, isBlank c = false) (cs : List Char) :
    (read (String.ofList (word ++ ' ' :: cs))).outcome =
      (ofWord (String.ofList word) (String.ofList (word.map Char.toLower)) (trimChars cs)).mapError
        .parse := by
  rw [read, String.toList_ofList, splitWord_trimChars hne hw (by decide)]
  simp only [Logged.outcome_bind, Logged.outcome_mapError, Logged.outcome_ofExcept,
    Logged.outcome_note, Logged.outcome_pure]
  exact bind_pure _

/-- A join has the texts on both sides of the first semicolon as its sources. -/
theorem outcome_read_join {x : List Char} (hx : ';' ∉ x) (y : List Char) :
    (read (String.ofList ("join".toList ++ ' ' :: (x ++ ';' :: y)))).outcome =
      .ok (.join (String.ofList (trimChars x)) (String.ofList (trimChars y))) := by
  have hword : "join".toList.all (fun c => !isBlank c) := by decide
  have hblank : ∀ c ∈ "join".toList, isBlank c = false := by
    intro c hc
    simpa using List.all_eq_true.1 hword c hc
  rw [outcome_read_word (by decide) hblank]
  have hlower : String.ofList ("join".toList.map Char.toLower) = "join" := by decide
  simp only [hlower, ofWord, splitSources_trimChars hx]
  rfl

end SqlSchema.Shell.Command
