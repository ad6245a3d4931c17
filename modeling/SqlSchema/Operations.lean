import SqlSchema.Schema.Join
import SqlSchema.Shell.Command
import SqlSchema.Syntax.Descent
import SqlSchema.Value.Stored

/-!
# Operations on a logger

Checking values, setting fields of records, joining sources and running commands as work that uses a
logger. Each stops at its first failure and logs when it comes to it.
-/

namespace SqlSchema.Acting

open Log Shell Syntax

/-! ## Values -/

/-- A check fails since something else was expected. -/
def mismatch (expected found : Shape) : Acting DataError Unit :=
  throw (.mismatch expected found)

/-- NULL passes every check. -/
def checkCell (check : Value → Acting DataError Unit) : Option Value → Acting DataError Unit
  | none => pure ()
  | some v => check v

def checkItems (check : Option Value → Acting DataError Unit) :
    Nat → List (Option Value) → Acting DataError Unit
  | _, [] => pure ()
  | index, c :: cs => do
    (check c).mapError (.nested (.element index))
    checkItems check (index + 1) cs

def checkEntries (checkKey checkValue : Option Value → Acting DataError Unit) :
    List (Option Value × Option Value) → Acting DataError Unit
  | [] => pure ()
  | (k, v) :: es => do
    (checkKey k).mapError (.nested .mapKey)
    (checkValue v).mapError (.nested (.mapValue k))
    checkEntries checkKey checkValue es

def checkDecimal (d : DecimalType) (x : Decimal) : Acting DataError Unit :=
  if x.precision ≠ d.precision.toNat then mismatch (.type (.decimal d)) (.precision x.precision)
  else if x.scale ≠ d.scale then mismatch (.type (.decimal d)) (.scale x.scale)
  else pure ()

def checkFields (fields found : List Field) : Acting DataError Unit :=
  if found = fields then pure () else mismatch (.type (.struct fields)) (.type (.struct found))

def checkValue (classify : Classifier) (t : DataType) (v : Value) : Acting DataError Unit :=
  let outcome : Acting DataError Unit := match t with
    | .decimal d => match v with
      | .decimal x => checkDecimal d x
      | _ => mismatch (.kind .decimal) (.kind (classify v))
    | .array item => match v with
      | .array items => checkItems (checkCell (checkValue classify item)) 0 items
      | _ => mismatch (.kind .array) (.kind (classify v))
    | .map key value => match v with
      | .map entries =>
        checkEntries (checkCell (checkValue classify key)) (checkCell (checkValue classify value))
          entries
      | _ => mismatch (.kind .map) (.kind (classify v))
    | .struct fields => match v with
      | .record slots => checkFields fields (slots.map Prod.fst)
      | _ => mismatch (.kind .struct) (.kind (classify v))
    | simple =>
      if classify v = simple.kind then pure ()
      else mismatch (.kind simple.kind) (.kind (classify v))
  outcome.onError .trace .types fun e => "value rejected by " ++ t.text ++ ": " ++ e.message

def checkWith (classify : Classifier) (t : DataType) (c : Option Value) : Acting DataError Unit :=
  checkCell (checkValue classify t) c

def setWith (classify : Classifier) (r : StoredRecord) (name : String) (c : Option Value) :
    Acting DataError StoredRecord :=
  match r.schema.place? name with
  | none => throw (.unknownField name)
  | some i => do
    (checkWith classify (r.schema.fields.get i).type c).mapError (.nested (.field name))
    pure (r.put i c)

/-! ## Joins -/

def joinUnscoped (left right : StoredSchema) : Acting JoinError StoredSchema := do
  let leftKey ← ofExcept (left.soleKey .left)
  let rightKey ← ofExcept (right.soleKey .right)
  if leftKey.type ≠ rightKey.type then
    throw (.keyTypeMismatch leftKey.type rightKey.type)
  else
    note .trace .join ("left:  " ++ left.text)
    note .trace .join ("right: " ++ right.text)
    let joined := StoredSchema.merged leftKey left right
    note .debug .join ("joined schema: " ++ joined.text)
    pure joined

def join (left right : StoredSchema) : Acting JoinError StoredSchema :=
  (scope .trace .join "create join params" (joinUnscoped left right)).onError .warn .join
    JoinError.message

/-! ## Commands -/

def readCommand (line : String) : Acting Error Command := do
  let (word, rest) := Command.splitWord (Text.trimChars line.toList)
  let command ← (ofExcept (Command.ofWord (String.ofList word)
    (String.ofList (word.map Char.toLower)) rest)).mapError .parse
  note .debug .shell ("command " ++ command.form.render)
  pure command

def readSource (source : String) : Acting Error Schema :=
  (Descent.ofText Descent.wholeSchema source).mapError .parse

def runCommand (reserved : ReservedWords) : Command → Acting Error Reply
  | .type source => do
    let type ← (Descent.ofText Descent.wholeType source).mapError .parse
    pure (.text (type.render reserved))
  | .schema source => do
    let schema ← readSource source
    pure (.text (schema.render reserved))
  | .join left right => do
    let left ← readSource left
    let right ← readSource right
    let joined ← (join (.ofSchema left) (.ofSchema right)).mapError .join
    pure (.text (joined.render reserved))
  | .help => pure (.text helpText)
  | .quit => pure .quit

end SqlSchema.Acting
