import SqlSchema.Proofs.Operations

/-!
# Logging only observes

Work on a logger could do anything with it: come to another outcome at another level, leave an
indentation behind, or write at a low level what it does not write at a high one. `Acting.OnlyObserved`
says that it does none of this. The entries of a log leave the logger as it was, also where scopes are
nested, and write what they say at the levels that are allowed (`Step.runAll_entries`). So logging only
observes work that does the same as some `Logged` work, which is the case for every operation
(`logging_only_observes`).
-/

namespace SqlSchema

open Log

/-! ## What lines say -/

namespace Log

/-- What a line says and at which level, however deep it is. -/
abbrev Said := Level × Component × Message

def Line.said (line : Line) : Said :=
  (line.level, line.component, line.message)

mutual

/-- All that an entry has to say. -/
def Step.said : Entry → List Said
  | .setLevel setting => nomatch setting
  | .note l c text => [(l, c, .text text)]
  | .scope l c name body => (l, c, .opened name) :: (Step.saidAll body ++ [(l, c, .closed name)])

def Step.saidAll : List Entry → List Said
  | [] => []
  | entry :: entries => entry.said ++ Step.saidAll entries

end

theorem Logger.dedent_indent (g : Logger) : g.indent.dedent = g := rfl

theorem Logger.map_said_write (g : Logger) (l : Level) (c : Component) (message : Message) :
    (g.write l c message).map Line.said = [(l, c, message)].filter fun said => g.allows said.1 := by
  unfold Logger.write
  split <;> simp_all [Line.said]

mutual

/-- An entry leaves the logger as it was, and writes what it says at the levels allowed. -/
theorem Step.run_entry (entry : Entry) (g : Logger) :
    (entry.run Empty.elim g).1 = g ∧
      (entry.run Empty.elim g).2.map Line.said =
        entry.said.filter fun said => g.allows said.1 := by
  cases entry with
  | setLevel setting => cases setting
  | note l c text => exact ⟨rfl, g.map_said_write l c _⟩
  | scope l c name body =>
    simp only [Step.run, Step.said, Logger.enter, Logger.leave]
    by_cases hl : g.allows l
    · obtain ⟨hg, hsaid⟩ := Step.runAll_entries body g.indent
      rw [if_pos hl, if_pos hl, hg]
      refine ⟨rfl, ?_⟩
      rw [List.map_append, List.map_append, g.map_said_write, hsaid, Logger.dedent_indent,
        g.map_said_write, ← List.singleton_append (l := Step.saidAll body ++ _),
        List.filter_append, List.filter_append, List.append_assoc]
      rfl
    · obtain ⟨hg, hsaid⟩ := Step.runAll_entries body g
      rw [if_neg hl, if_neg hl, hg]
      refine ⟨rfl, ?_⟩
      rw [List.nil_append, List.append_nil, hsaid]
      simp [hl]

theorem Step.runAll_entries (entries : List Entry) (g : Logger) :
    (Step.runAll Empty.elim entries g).1 = g ∧
      (Step.runAll Empty.elim entries g).2.map Line.said =
        (Step.saidAll entries).filter fun said => g.allows said.1 := by
  cases entries with
  | nil => exact ⟨rfl, rfl⟩
  | cons entry entries =>
    obtain ⟨hg, hsaid⟩ := Step.run_entry entry g
    obtain ⟨hg', hsaid'⟩ := Step.runAll_entries entries g
    rw [Step.runAll, Step.saidAll, hg]
    refine ⟨hg', ?_⟩
    rw [List.map_append, List.filter_append, hsaid, hsaid']

end

theorem Logger.said_lines (g : Logger) (entries : List Entry) : (g.lines entries).map Line.said =
    (Step.saidAll entries).filter fun said => g.allows said.1 :=
  (Step.runAll_entries entries g).2

/-- Where a lower level allows a line, a higher one does, and the line is of the lower level. -/
theorem Logger.allows_eq_of_le {l m : Level} (h : l ≤ m) (depth : Nat) (level : Level) :
    (⟨l, depth⟩ : Logger).allows level =
      ((⟨m, depth⟩ : Logger).allows level && decide (level ≤ l)) := by
  have htrans : level ≤ l → level ≤ m := fun hl => Nat.le_trans hl h
  unfold Logger.allows
  by_cases hl : level ≤ l <;> simp [hl, htrans]

theorem Logger.not_allows_off (depth : Nat) (level : Level) :
    (⟨.off, depth⟩ : Logger).allows level = false := by
  cases level <;> rfl

end Log

/-! ## Observing -/

def Played.said {ε α : Type} (played : Played ε α) : List Said :=
  played.lines.map Line.said

/-- Logging only observes the work, on whatever logger it is done. -/
structure Acting.OnlyObserved {ε α : Type} (x : Acting ε α) : Prop where
  /-- What comes of the work does not depend on the level or the indentation. -/
  outcome_eq : ∀ g g' : Logger,
    (x.playOn g).map Played.outcome = (x.playOn g').map Played.outcome
  /-- The work comes to an end, and the level and the indentation afterwards are those before, also if
  it fails. -/
  logger_eq : ∀ g : Logger, (x.playOn g).map Played.logger = some g
  /-- A lower level writes just the lines of a higher one that are of the lower level. -/
  said_eq : ∀ (depth : Nat) (l m : Level), l ≤ m →
    (x.playOn ⟨l, depth⟩).map Played.said =
      (x.playOn ⟨m, depth⟩).map fun played => played.said.filter fun said => said.1 ≤ l
  /-- Nothing is written if logging is off. -/
  lines_off : ∀ depth : Nat, (x.playOn ⟨.off, depth⟩).map Played.lines = some []

theorem Logged.playOn_acts {ε α : Type} (x : Logged ε α) (g : Logger) :
    x.acts.playOn g = some ⟨x.outcome, g, g.lines x.log⟩ := by
  show some (Played.mk x.outcome (Step.runAll Empty.elim x.log g).1 _) = _
  rw [(Step.runAll_entries x.log g).1]
  rfl

theorem Logged.onlyObserved_acts {ε α : Type} (x : Logged ε α) : x.acts.OnlyObserved where
  outcome_eq g g' := by rw [x.playOn_acts, x.playOn_acts, Option.map_some, Option.map_some]
  logger_eq g := by rw [x.playOn_acts, Option.map_some]
  said_eq depth l m h := by
    rw [x.playOn_acts, x.playOn_acts, Option.map_some, Option.map_some, Played.said, Played.said,
      Logger.said_lines, Logger.said_lines, List.filter_filter]
    refine congrArg some (List.filter_congr fun said _ => ?_)
    rw [Logger.allows_eq_of_le h, Bool.and_comm]
  lines_off depth := by
    rw [x.playOn_acts, Option.map_some, Option.some_inj, ← List.map_eq_nil_iff (f := Line.said),
      Logger.said_lines, List.filter_eq_nil_iff]
    intro said _
    rw [Logger.not_allows_off]
    exact Bool.false_ne_true

/-- Work that fails inside a scope and does not leave it is more than an observation. -/
example : ¬ (do
    let started ← Acting.enter .trace .join "create join params"
    let () ← throw (JoinError.keyCount .left 0)
    Acting.leave started .trace .join "create join params" : Acting JoinError Unit).OnlyObserved :=
  fun h => absurd (h.logger_eq ⟨.trace, 0⟩) (by decide)

/-- Building structs, reading types and schemas, checking and setting values, joining, and reading a
command and running it: each of these asks the logger, writes to it and changes its indentation on its
way, and logging only observes it. -/
theorem logging_only_observes :
    (∀ (s : IndexedFields) (fs : List Field),
      (Acting.addFields s fs >>= Acting.buildFields).OnlyObserved) ∧
    (∀ s : String, (Syntax.Descent.ofText Syntax.Descent.wholeType s).OnlyObserved) ∧
    (∀ s : String, (Syntax.Descent.ofText Syntax.Descent.wholeSchema s).OnlyObserved) ∧
    (∀ (classify : Classifier) (t : DataType) (c : Option Value),
      (Acting.checkWith classify t c).OnlyObserved) ∧
    (∀ (classify : Classifier) (r : StoredRecord) (name : String) (c : Option Value),
      (Acting.setWith classify r name c).OnlyObserved) ∧
    (∀ left right : StoredSchema, (Acting.join left right).OnlyObserved) ∧
    ∀ (reserved : ReservedWords) (line : String),
      (Acting.readCommand line >>= Acting.runCommand reserved).OnlyObserved := by
  refine ⟨fun s fs => ?_, fun s => ?_, fun s => ?_, fun classify t c => ?_,
    fun classify r name c => ?_, fun left right => ?_, fun reserved line => ?_⟩
  -- Each operation does what some `Logged` work says.
  · rw [← IndexedFields.acts_addAll_bind_build]
    exact Logged.onlyObserved_acts _
  · rw [Syntax.ofText_wholeType]
    exact Logged.onlyObserved_acts _
  · rw [Syntax.ofText_wholeSchema]
    exact Logged.onlyObserved_acts _
  · rw [← acts_checkWith]
    exact Logged.onlyObserved_acts _
  · rw [← StoredRecord.acts_setWith]
    exact Logged.onlyObserved_acts _
  · rw [← StoredSchema.acts_join]
    exact Logged.onlyObserved_acts _
  · rw [← Shell.acts_answer]
    exact Logged.onlyObserved_acts _

/-- A join that is refused warns after its scope was left. Of its three lines only the warning is
written where scopes are not. -/
theorem logging_only_observes_refused_join :
    ((Acting.join {} {}).playOn ⟨.trace, 1⟩).map Played.said = some [
      (.trace, .join, .opened "create join params"), (.trace, .join, .closed "create join params"),
      (.warn, .join,
        .text "Invalid join. Left source must have exactly one key column, found 0")] ∧
    ((Acting.join {} {}).playOn ⟨.warn, 1⟩).map Played.said = some [
      (.warn, .join,
        .text "Invalid join. Left source must have exactly one key column, found 0")] ∧
    ((Acting.join {} {}).playOn ⟨.trace, 1⟩).map Played.logger = some ⟨.trace, 1⟩ := by
  have hjoin := logging_only_observes.2.2.2.2.2.1 {} {}
  refine ⟨rfl, ?_, hjoin.logger_eq _⟩
  rw [hjoin.said_eq 1 .warn .trace (by decide)]
  rfl

end SqlSchema
