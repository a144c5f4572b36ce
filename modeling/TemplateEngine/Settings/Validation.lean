import TemplateEngine.Settings.Config
/-!
Strict reading of one section: every setting must be of the right kind, and all that are not are
reported together. Unknown settings are passed over.
-/
namespace TemplateEngine.Validation

/-- A checked setting, or what is wrong with it. -/
abbrev Checked (α : Type) := Except Issue α

/-- The text that a setting is read as: that of a text or of well-formed bytes, or the text of the
value of an enumeration member. -/
def text? (v : Value) : M (Option String) := do
  let w ← get
  match w.text? v, w.bytes? v with
  | some s, _ => return some s
  | none, some b => return (Text.Utf8.decode b).toOption
  | none, none =>
    match v with
    | .member e i => (w.memberName? e i).mapM fun n => textOf n.value
    | .flags _ bits => some <$> textOf (.int bits)
    | _ => return none

/-- A text that names one of several things. -/
def checkName {α : Type} (field : String) (ofName? : String → Option α) (v : Value) :
    M (Checked α) := do
  match (← text? v).bind ofName? with
  | some a => return .ok a
  | none => return .error ⟨"enum", [field]⟩

def checkText (field : String) (v : Value) : M (Checked String) := do
  match ← text? v with
  | some s => return .ok s
  | none =>
    let isBytes := ((← get).bytes? v).isSome
    return .error ⟨if isBytes then "string_unicode" else "string_type", [field]⟩

def yesWords : List String := ["1", "on", "t", "true", "y", "yes"]
def noWords : List String := ["0", "off", "f", "false", "n", "no"]

/-- The nearest floating-point number to a real one. -/
def nearestFloat? (w : World) (v : Value) : Option Binary64 :=
  match w.numeric? v with
  | some (.real (.ratio q)) => some (Binary64.ofRatio q)
  | _ => none

/-- From here on integers are not looked at. -/
def integerLimit : Nat := 0x8000000000000000

/-- A truth value, a number that is zero or one, or a word for one of them in any case. -/
def checkTruth (field : String) (v : Value) : M (Checked Bool) := do
  let w ← get
  let wrongType : Checked Bool := .error ⟨"bool_type", [field]⟩
  let unreadable : Checked Bool := .error ⟨"bool_parsing", [field]⟩
  let word (s : String) : Checked Bool :=
    let word := String.ofList (s.toList.map Char.toLower)
    if yesWords.contains word then .ok true
    else if noWords.contains word then .ok false
    else unreadable
  let number (n : Int) : Checked Bool :=
    if n = 0 then .ok false else if n = 1 then .ok true else unreadable
  match w.base v with
  | .bool b => return .ok b
  | .text s => return word s
  | .bytes b => return ((Text.Utf8.decode b).toOption.map word).getD unreadable
  | .int n =>
    return if -integerLimit ≤ n ∧ n < integerLimit then number n else wrongType
  | _ =>
    match nearestFloat? w v with
    | none => return wrongType
    | some x =>
      match x.isIntegral, x.exact with
      | true, .ratio q =>
        return if q.truncate.natAbs < integerLimit then number q.truncate else wrongType
      | _, _ => return wrongType

/-- The entries of a section, which must be a mapping. -/
def sectionEntries (v : Value) : M (List (Value × Value)) := do
  match (← get).mapping? v with
  | some entries => return entries
  | none => fail (.invalid [⟨"model_type", []⟩])

def issueOf {α : Type} : Checked α → List Issue
  | .ok _ => []
  | .error i => [i]

/-- Checks a setting, or takes its default if it is missing. -/
def checkField {α : Type} (entries : List (Value × Value)) (field : String) (default_ : α)
    (check : String → Value → M (Checked α)) : M (Checked α) := do
  match ← lookUpEntry entries (.text field) with
  | some v => check field v
  | none => return .ok default_

def logging (v : Value) : M LoggingConfig := do
  let entries ← sectionEntries v
  let d := Config.defaultLogging
  let level ← checkField entries "level" d.level (checkName · LogLevel.ofName?)
  let format ← checkField entries "format" d.format (checkName · LogFormat.ofName?)
  let file ← checkField entries "file" d.file checkText
  match level, format, file with
  | .ok level, .ok format, .ok file => return ⟨level, format, file⟩
  | level, format, file => fail (.invalid (issueOf level ++ issueOf format ++ issueOf file))

/-- Whether calling an unknown extension fails, as a section tells. -/
def strictExtensions (v : Value) : M Bool := do
  let entries ← sectionEntries v
  match ← checkField entries "strict_extensions" true checkTruth with
  | .ok b => return b
  | .error i => fail (.invalid [i])

/-- A section cannot be changed once it was read; names that begin with an underscore are no
settings. -/
def assign (field : String) : M Unit :=
  if Text.hasPrefix "_" field then return () else fail (.invalid [⟨"frozen_instance", [field]⟩])

end TemplateEngine.Validation
