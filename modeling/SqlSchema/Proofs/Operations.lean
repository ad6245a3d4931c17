import SqlSchema.Operations
import SqlSchema.Proofs.Joins
import SqlSchema.Proofs.ParserSafety
import SqlSchema.Shell.Session

/-!
# Operations and what they log

Each operation on a logger does just what its `Logged` form says is to be logged, and comes to the same
outcome.
-/

namespace SqlSchema

open Log Syntax

/-! ## Values -/

theorem acts_mismatch (expected found : Shape) :
    (Check.mismatch expected found).acts = Acting.mismatch expected found :=
  Logged.acts_fail _

theorem acts_checkCell (check : Value → Check) (c : Option Value) :
    (checkCell check c).acts = Acting.checkCell (fun v => (check v).acts) c := by
  cases c with
  | none => exact Logged.acts_pure ()
  | some v => rfl

theorem acts_checkItems (check : Option Value → Check) (index : Nat) (cs : List (Option Value)) :
    (checkItems check index cs).acts = Acting.checkItems (fun c => (check c).acts) index cs := by
  induction cs generalizing index with
  | nil => exact Logged.acts_pure ()
  | cons c cs ih =>
    rw [checkItems, Acting.checkItems, Logged.acts_bind, Logged.acts_mapError]
    simp only [ih]

theorem acts_checkEntries (checkKey checkValue : Option Value → Check)
    (es : List (Option Value × Option Value)) :
    (checkEntries checkKey checkValue es).acts =
      Acting.checkEntries (fun k => (checkKey k).acts) (fun v => (checkValue v).acts) es := by
  induction es with
  | nil => exact Logged.acts_pure ()
  | cons e es ih =>
    rw [checkEntries, Acting.checkEntries, Logged.acts_bind, Logged.acts_mapError]
    simp only [Logged.acts_bind, Logged.acts_mapError, ih]

theorem acts_check (d : DecimalType) (x : Decimal) : (d.check x).acts = Acting.checkDecimal d x := by
  unfold DecimalType.check Acting.checkDecimal
  split
  · exact acts_mismatch _ _
  · split
    · exact acts_mismatch _ _
    · exact Logged.acts_pure ()

theorem acts_checkFields (fields found : List Field) :
    (checkFields fields found).acts = Acting.checkFields fields found := by
  unfold checkFields Acting.checkFields
  split
  · exact Logged.acts_pure ()
  · exact acts_mismatch _ _

theorem acts_checkValue (classify : Classifier) (t : DataType) (v : Value) :
    (t.checkValue classify v).acts = Acting.checkValue classify t v := by
  unfold DataType.checkValue Acting.checkValue
  rw [Logged.acts_onError]
  cases t with
  | decimal d =>
    cases v with
    | decimal x => simp only [acts_check]
    | _ => simp only [acts_mismatch]
  | array item =>
    cases v with
    | array items => simp only [acts_checkItems, acts_checkCell, acts_checkValue classify item]
    | _ => simp only [acts_mismatch]
  | map key value =>
    cases v with
    | map entries =>
      simp only [acts_checkEntries, acts_checkCell, acts_checkValue classify key,
        acts_checkValue classify value]
    | _ => simp only [acts_mismatch]
  | struct fields =>
    cases v with
    | record slots => simp only [acts_checkFields]
    | _ => simp only [acts_mismatch]
  | boolean | integer | bigint | double | string =>
    dsimp only
    split
    · rw [Logged.acts_pure]
    · rw [acts_mismatch]

theorem acts_checkWith (classify : Classifier) (t : DataType) (c : Option Value) :
    (t.checkWith classify c).acts = Acting.checkWith classify t c := by
  rw [DataType.checkWith, acts_checkCell, Acting.checkWith]
  simp only [acts_checkValue]

theorem StoredRecord.acts_setWith (classify : Classifier) (r : StoredRecord) (name : String)
    (c : Option Value) : (r.setWith classify name c).acts = Acting.setWith classify r name c := by
  unfold setWith Acting.setWith
  cases r.schema.place? name with
  | none => exact Logged.acts_fail _
  | some i =>
    simp only [Logged.acts_bind, Logged.acts_mapError, acts_checkWith, Logged.acts_pure]

/-! ## Joins -/

theorem StoredSchema.acts_joinUnscoped (left right : StoredSchema) :
    (left.joinUnscoped right).acts = Acting.joinUnscoped left right := by
  unfold joinUnscoped Acting.joinUnscoped
  rw [Logged.acts_bind, Logged.acts_ofExcept]
  congr
  funext leftKey
  rw [Logged.acts_bind, Logged.acts_ofExcept]
  congr
  funext rightKey
  split
  · exact Logged.acts_fail _
  · simp only [Logged.acts_bind, Logged.acts_note, Logged.acts_pure]

/-- The scope of a join is left on each of the ways out of it. -/
theorem StoredSchema.acts_join (left right : StoredSchema) :
    (left.join right).acts = Acting.join left right := by
  rw [join, Acting.join, Logged.acts_onError, Logged.acts_within, acts_joinUnscoped]

/-! ## Commands -/

namespace Shell

theorem acts_readCommand (line : String) :
    (Command.read line).acts = Acting.readCommand line := by
  unfold Command.read Acting.readCommand
  simp only [Logged.acts_bind, Logged.acts_mapError, Logged.acts_ofExcept, Logged.acts_note,
    Logged.acts_pure]

theorem acts_readSource (source : String) :
    (Command.readSource source).acts = Acting.readSource source := by
  rw [Command.readSource, Logged.acts_mapError, Acting.readSource, ofText_wholeSchema]

/-- A join that is shown is shown as it is stored. -/
theorem join_bind_render (reserved : ReservedWords) (left right : Schema) :
    ((left.join right).mapError Error.join >>= fun joined =>
        pure (Reply.text (joined.render reserved))) =
      ((StoredSchema.ofSchema left).join (.ofSchema right)).mapError Error.join >>= fun joined =>
        pure (Reply.text (joined.render reserved)) := by
  rw [← Schema.ofSchema_join, Logged.mapError_map, bind_map_left]
  rfl

theorem acts_runCommand (reserved : ReservedWords) (command : Command) :
    (command.run reserved).acts = Acting.runCommand reserved command := by
  cases command with
  | type source =>
    rw [Command.run, Acting.runCommand, Logged.acts_bind, Logged.acts_mapError, ofText_wholeType]
    simp only [Logged.acts_pure]
  | schema source =>
    rw [Command.run, Acting.runCommand, Logged.acts_bind, acts_readSource]
    simp only [Logged.acts_pure]
  | join left right =>
    rw [Command.run, Acting.runCommand]
    simp only [join_bind_render, Logged.acts_bind, Logged.acts_mapError, acts_readSource,
      StoredSchema.acts_join, Logged.acts_pure]
  | help => exact Logged.acts_pure _
  | quit => exact Logged.acts_pure _

theorem acts_answer (reserved : ReservedWords) (line : String) :
    (answer reserved line).acts =
      Acting.readCommand line >>= Acting.runCommand reserved := by
  rw [answer, Logged.acts_bind, acts_readCommand]
  simp only [acts_runCommand]

end Shell

end SqlSchema
