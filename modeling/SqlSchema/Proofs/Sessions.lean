import SqlSchema.Proofs.CanonicalForms
import SqlSchema.Proofs.Observation
import SqlSchema.Shell.Process

/-!
# Sessions

A session is its lines one by one. A line that does not quit leaves the running shell as it was,
also one with an error (`Process.take_line`), so what comes behind it is what would come without it
(`Process.run_append_of_not_quits`), and a line that quits is the last one taken. In between the
shell shows one text for each line that is not blank: the reply to it or the message of its error
(`session_concatenates`).
-/

namespace SqlSchema.Shell

open Log Text

/-! ## Lines and their answers -/

theorem trimChars_idem (cs : List Char) : trimChars (trimChars cs) = trimChars cs := by
  show trimChars ((dropBlanks cs).rdropWhile isBlank) = _
  rw [trimChars_rdropWhile, trimChars_dropBlanks]

/-- Blanks at the ends of a line make no difference to the command in it. -/
theorem read_trim (line : String) : Command.read (trim line) = Command.read line := by
  unfold Command.read trim
  rw [String.toList_ofList, trimChars_idem]

theorem answer_trim (reserved : ReservedWords) (line : String) :
    answer reserved (trim line) = answer reserved line := by
  unfold answer
  rw [read_trim]

/-- The line is a command to quit. -/
def quits (line : String) : Bool :=
  match (Command.read line).outcome with
  | .ok .quit => true
  | _ => false

theorem quits_iff {line : String} : quits line ↔ (Command.read line).outcome = .ok .quit := by
  unfold quits
  split
  · next h => simp [h]
  · next h => simpa using h

/-- What is shown for a line: the text that its command replies, or the message of its error. -/
inductive Answers (reserved : ReservedWords) (line : String) : String → Prop
  | reply {command : Command} {text : String} : (Command.read line).outcome = .ok command →
      (command.run reserved).outcome = .ok (.text text) → Answers reserved line text
  | unread {e : Error} : (Command.read line).outcome = .error e →
      Answers reserved line e.message
  | failed {command : Command} {e : Error} : (Command.read line).outcome = .ok command →
      (command.run reserved).outcome = .error e → Answers reserved line e.message

theorem run_eq_quit_iff {reserved : ReservedWords} {command : Command} :
    (command.run reserved).outcome = .ok .quit ↔ command = .quit := by
  constructor
  · intro h
    cases command with
    | type source =>
      obtain ⟨t, -, hr⟩ := run_type_eq_ok_iff.1 h
      cases hr
    | schema source =>
      obtain ⟨s, -, hr⟩ := run_schema_eq_ok_iff.1 h
      cases hr
    | join left right =>
      obtain ⟨s, -, hr⟩ := run_join_eq_ok_iff.1 h
      cases hr
    | help => cases h
    | quit => rfl
  · rintro rfl
    rfl

theorem answer_eq_quit_iff {reserved : ReservedWords} {line : String} :
    (answer reserved line).outcome = .ok .quit ↔ quits line := by
  rw [answer, Logged.outcome_bind, bind_eq_ok_iff, quits_iff]
  simp [run_eq_quit_iff]

theorem exists_answer (reserved : ReservedWords) {line : String} (h : quits line = false) :
    (∃ text, (answer reserved line).outcome = .ok (.text text) ∧ Answers reserved line text) ∨
      ∃ e, (answer reserved line).outcome = .error e ∧ Answers reserved line e.message := by
  cases ha : (answer reserved line).outcome with
  | ok reply =>
    cases reply with
    | text text =>
      rw [answer, Logged.outcome_bind] at ha
      obtain ⟨command, hread, hrun⟩ := bind_eq_ok_iff.1 ha
      exact Or.inl ⟨text, rfl, .reply hread hrun⟩
    | quit =>
      rw [answer_eq_quit_iff.1 ha] at h
      cases h
  | error e =>
    rw [answer, Logged.outcome_bind] at ha
    rcases bind_eq_error_iff.1 ha with hread | ⟨command, hread, hrun⟩
    · exact Or.inr ⟨e, rfl, .unread hread⟩
    · exact Or.inr ⟨e, rfl, .failed hread hrun⟩

/-! ## Turns -/

theorem respond_of_blank (config : Config) {line : String} (h : trim line = "") :
    respond config line = {} := by
  unfold respond
  simp [h]

theorem trim_ne_of_quits {line : String} (h : quits line) : trim line ≠ "" := by
  intro hblank
  rw [quits_iff, ← read_trim, hblank] at h
  cases h

theorem respond_of_not_quits (config : Config) {line : String} (hblank : trim line ≠ "")
    (h : quits line = false) : (respond config line).quits = false ∧
      ∃ text, (respond config line).shown = [text] ∧ Answers config.reserved line text := by
  unfold respond
  rw [if_neg hblank, answer_trim]
  rcases exists_answer config.reserved h with ⟨text, ha, hanswer⟩ | ⟨e, ha, hanswer⟩
  · simp only [ha]
    exact ⟨trivial, text, rfl, hanswer⟩
  · simp only [ha]
    exact ⟨trivial, e.message, rfl, hanswer⟩

theorem respond_of_quits (config : Config) {line : String} (h : quits line) :
    (respond config line).quits ∧ (respond config line).shown = [] := by
  unfold respond
  rw [if_neg (trim_ne_of_quits h), answer_trim]
  simp only [answer_eq_quit_iff.2 h, and_self]

theorem quits_respond (config : Config) (line : String) :
    (respond config line).quits = quits line := by
  by_cases hblank : trim line = ""
  · rw [respond_of_blank config hblank]
    cases h : quits line with
    | true => exact absurd hblank (trim_ne_of_quits h)
    | false => rfl
  · cases h : quits line with
    | true => exact (respond_of_quits config h).1
    | false => exact (respond_of_not_quits config hblank h).1

/-! ## The running shell -/

namespace Process

variable {config : Config}

theorem play_eq (p : Process) (turn : Turn) :
    (p.play turn).1 = { p with ending := if turn.quits then some .regular else p.ending } := by
  show (⟨(Step.runAll Empty.elim turn.log p.logger).1, _⟩ : Process) = _
  rw [(Step.runAll_entries turn.log p.logger).1]

theorem shown_play (p : Process) (turn : Turn) : (p.play turn).2.shown = turn.shown := rfl

section

variable {editor : Editor}

theorem run_of_ended {p : Process} (h : p.ending.isSome) (inputs : List Input) :
    p.run editor config inputs = (p, []) := by
  cases inputs with
  | nil => rfl
  | cons input inputs => rw [run, if_pos h]

theorem run_cons {p : Process} (h : p.ending = none) (input : Input) (inputs : List Input) :
    p.run editor config (input :: inputs) =
      (((p.take editor config input).1.run editor config inputs).1,
        (p.take editor config input).2 ::
          ((p.take editor config input).1.run editor config inputs).2) := by
  rw [run, h]
  rfl

theorem run_append (p : Process) (inputs others : List Input) :
    p.run editor config (inputs ++ others) =
      (((p.run editor config inputs).1.run editor config others).1,
        (p.run editor config inputs).2 ++
          ((p.run editor config inputs).1.run editor config others).2) := by
  induction inputs generalizing p with
  | nil => rfl
  | cons input inputs ih =>
    cases h : p.ending with
    | some ending => simp [run_of_ended, h]
    | none => rw [List.cons_append, run_cons h, run_cons h, ih, List.cons_append]

end

/-! ## Lines that are kept -/

section

variable {editor : Editor} (keeps : ∀ line, editor.historyFailure? line = none)

include keeps

theorem take_line_eq (config : Config) (p : Process) (line : String) :
    p.take editor config (.line line) = p.play (respond config line) := by
  have h : editor.keepFailure? line = none := by
    unfold Editor.keepFailure?
    rw [keeps, ite_self]
  rw [take, h]

theorem shown_take_line (config : Config) (p : Process) (line : String) :
    (p.take editor config (.line line)).2.shown = (respond config line).shown := by
  rw [take_line_eq keeps, shown_play]

/-- A line ends the shell if it quits, and else leaves it as it was. -/
theorem take_line (config : Config) (p : Process) (line : String) :
    (p.take editor config (.line line)).1 =
      if quits line then { p with ending := some .regular } else p := by
  rw [take_line_eq keeps, play_eq, quits_respond]
  split <;> rfl

/-- Lines that do not quit leave the shell as it was, and each puts out what it would alone. -/
theorem run_lines {p : Process} (hp : p.ending = none) {lines : List String}
    (h : ∀ line ∈ lines, quits line = false) :
    p.run editor config (lines.map .line) =
      (p, lines.map fun line => (p.take editor config (.line line)).2) := by
  induction lines with
  | nil => rfl
  | cons line lines ih =>
    obtain ⟨hline, hlines⟩ := List.forall_mem_cons.1 h
    have htake := take_line keeps config p line
    rw [hline, if_neg Bool.false_ne_true] at htake
    rw [List.map_cons, run_cons hp, htake, ih hlines, List.map_cons]

/-- What comes behind lines that do not quit is what would come without them. -/
theorem run_append_of_not_quits {p : Process} (hp : p.ending = none) {before : List String}
    (h : ∀ line ∈ before, quits line = false) (inputs : List Input) :
    p.run editor config (before.map .line ++ inputs) =
      ((p.run editor config inputs).1,
        (before.map fun line => (p.take editor config (.line line)).2) ++
          (p.run editor config inputs).2) := by
  rw [run_append, run_lines keeps hp h]

theorem run_cons_of_quits {p : Process} (hp : p.ending = none) {line : String}
    (h : quits line) (after : List Input) :
    p.run editor config (.line line :: after) =
      ({ p with ending := some .regular }, [(p.take editor config (.line line)).2]) := by
  have htake := take_line keeps config p line
  rw [h, if_pos rfl] at htake
  rw [run_cons hp, htake, run_of_ended rfl]

end

end Process

/-! ## Whole sessions -/

/-- The lines with an answer: those that are not blank, up to the first that quits. -/
def answered (lines : List String) : List String :=
  (lines.takeWhile fun line => !quits line).filter fun line => trim line ≠ ""

section

variable {editor : Editor} (keeps : ∀ line, editor.historyFailure? line = none)

include keeps

/-- The texts shown for lines that do not quit are their answers, but for the blank ones. -/
theorem answers_of_not_quits (config : Config) (p : Process) {lines : List String}
    (h : ∀ line ∈ lines, quits line = false) :
    List.Forall₂ (Answers config.reserved) (lines.filter fun line => trim line ≠ "")
      ((lines.map fun line => (p.take editor config (.line line)).2).flatMap Output.shown) := by
  induction lines with
  | nil => exact .nil
  | cons line lines ih =>
    obtain ⟨hline, hlines⟩ := List.forall_mem_cons.1 h
    rw [List.map_cons, List.flatMap_cons, Process.shown_take_line keeps]
    by_cases hblank : trim line = ""
    · rw [respond_of_blank config hblank, List.filter_cons_of_neg (by simpa using hblank)]
      exact ih hlines
    · obtain ⟨-, text, hshown, hanswer⟩ := respond_of_not_quits config hblank hline
      rw [hshown, List.filter_cons_of_pos (by simpa using hblank)]
      exact .cons hanswer (ih hlines)

/-- Behind lines that do not quit, the end of the input and a line that quits both end the shell
regularly, with nothing shown. -/
theorem run_ending {p : Process} (hp : p.ending = none) (config : Config) {rest : List String}
    (h : ∀ line ∈ rest.head?, quits line) :
    ∃ outputs, p.run editor config (rest.map .line ++ [.over]) =
        ({ p with ending := some .regular }, outputs) ∧ outputs.flatMap Output.shown = [] := by
  cases rest with
  | nil => exact ⟨[{}], by rw [List.map_nil, List.nil_append, Process.run_cons hp]; rfl, rfl⟩
  | cons line after =>
    have hquits : quits line := h line rfl
    have hshown := (respond_of_quits config hquits).2
    refine ⟨_, Process.run_cons_of_quits keeps hp hquits _, ?_⟩
    rw [List.flatMap_cons, List.flatMap_nil, List.append_nil, Process.shown_take_line keeps, hshown]

/-- Lines and the end of the input end the shell regularly. Its logger is as before, and for each
line with an answer the answer was shown. -/
theorem run_to_end {p : Process} (hp : p.ending = none) (config : Config) (lines : List String) :
    (p.run editor config (lines.map .line ++ [.over])).1 = { p with ending := some .regular } ∧
      List.Forall₂ (Answers config.reserved) (answered lines)
        ((p.run editor config (lines.map .line ++ [.over])).2.flatMap Output.shown) := by
  have hbefore : ∀ line ∈ lines.takeWhile fun line => !quits line, quits line = false := by
    intro line hline
    simpa using List.mem_takeWhile_imp hline
  have hrest : ∀ line ∈ (lines.dropWhile fun line => !quits line).head?, quits line := by
    intro line hline
    have h := List.head?_dropWhile_not (fun line => !quits line) lines
    rw [Option.mem_def.1 hline] at h
    simpa using h
  have hsplit : lines.map Input.line ++ [.over] =
      (lines.takeWhile fun line => !quits line).map .line ++
        ((lines.dropWhile fun line => !quits line).map .line ++ [.over]) := by
    rw [← List.append_assoc, ← List.map_append, List.takeWhile_append_dropWhile]
  obtain ⟨outputs, hrun, hshown⟩ := run_ending keeps hp config hrest
  rw [hsplit, Process.run_append_of_not_quits keeps hp hbefore, hrun, List.flatMap_append, hshown,
    List.append_nil]
  exact ⟨rfl, answers_of_not_quits keeps config p hbefore⟩

end

/-- The shell starts with a fresh logger of the level that is set, and says its name and how to get
help. -/
theorem start_eq {editor : Editor} (starts : editor.startFailure? = none) (config : Config) :
    (Process.start editor config).1 = { logger := { level := config.level } } ∧
      (Process.start editor config).2.shown =
        ["streamsql schema shell", "Type 'help' for commands. Ctrl+D to exit"] := by
  unfold Process.start
  rw [starts]
  simp only [Process.play_eq, Process.shown_play]
  exact ⟨rfl, rfl⟩

/-- Let the editor start and keep every line in its history. Whatever the environment and the
arguments are, the shell shows its two first lines and then, for each line that is not blank and up to
the first that quits, the reply or the message of the error, and it exits with code zero. Lines that
do not quit, be it with an error, change nothing about what comes behind them, and nothing behind a
line that quits matters. -/
theorem session_concatenates {editor : Editor} (starts : editor.startFailure? = none)
    (keeps : ∀ line, editor.historyFailure? line = none) (lookup : String → Option String)
    (arguments : List String) :
    (∀ lines : List String, ∃ texts,
      List.Forall₂ (Answers (settings lookup arguments).reserved) (answered lines) texts ∧
      (shell editor lookup arguments (lines.map .line ++ [.over])).2.flatMap Output.shown =
        ["streamsql schema shell", "Type 'help' for commands. Ctrl+D to exit"] ++ texts ∧
      (shell editor lookup arguments (lines.map .line ++ [.over])).1.ending.map Ending.exitCode =
        some 0) ∧
    (∀ (before : List String) (inputs : List Input), (∀ line ∈ before, quits line = false) →
      shell editor lookup arguments (before.map .line ++ inputs) =
        ((shell editor lookup arguments inputs).1,
          (shell editor lookup arguments (before.map .line)).2 ++
            (shell editor lookup arguments inputs).2.tail)) ∧
    ∀ (line : String) (inputs : List Input), quits line →
      shell editor lookup arguments (.line line :: inputs) =
        shell editor lookup arguments [.line line] := by
  obtain ⟨hstarted, hshown⟩ := start_eq starts (settings lookup arguments)
  have hp : (Process.start editor (settings lookup arguments)).1.ending = none := by rw [hstarted]
  refine ⟨?_, ?_, ?_⟩
  · intro lines
    obtain ⟨hended, hanswers⟩ := run_to_end keeps hp (settings lookup arguments) lines
    refine ⟨_, hanswers, ?_, ?_⟩
    · rw [shell, List.flatMap_cons, hshown]
    · rw [shell, hended]
      rfl
  · intro before inputs hbefore
    simp only [shell, Process.run_append_of_not_quits keeps hp hbefore,
      Process.run_lines keeps hp hbefore, List.tail_cons, List.cons_append]
  · intro line inputs hquits
    simp only [shell, Process.run_cons_of_quits keeps hp hquits]

/-- Two lines with errors around a blank one, then the end that cuts off a type. -/
theorem session_concatenates_errors :
    answered ["foo", " ", "join ;", "quit", "type x"] = ["foo", "join ;"] ∧
    (∃ texts,
      List.Forall₂ (Answers (settings (fun _ => none) []).reserved) ["foo", "join ;"] texts ∧
      (shell {} (fun _ => none) []
        (["foo", " ", "join ;", "quit", "type x"].map .line ++ [.over])).2.flatMap Output.shown =
          ["streamsql schema shell", "Type 'help' for commands. Ctrl+D to exit"] ++ texts) ∧
    shell {} (fun _ => none) [] [.line "foo", .line "join ;", .line "help"] =
      ((shell {} (fun _ => none) [] [.line "help"]).1,
        (shell {} (fun _ => none) [] [.line "foo", .line "join ;"]).2 ++
          (shell {} (fun _ => none) [] [.line "help"]).2.tail) ∧
    shell {} (fun _ => none) [] [.line "quit", .line "type x"] =
      shell {} (fun _ => none) [] [.line "quit"] := by
  obtain ⟨hlines, hbefore, hquit⟩ :=
    @session_concatenates {} rfl (fun _ => rfl) (fun _ => none) []
  have hanswered : answered ["foo", " ", "join ;", "quit", "type x"] = ["foo", "join ;"] := by
    decide
  obtain ⟨texts, hanswers, hshown, -⟩ := hlines ["foo", " ", "join ;", "quit", "type x"]
  rw [hanswered] at hanswers
  exact ⟨hanswered, ⟨texts, hanswers, hshown⟩,
    hbefore ["foo", "join ;"] [.line "help"] (by decide), hquit "quit" [.line "type x"] (by decide)⟩

end SqlSchema.Shell
