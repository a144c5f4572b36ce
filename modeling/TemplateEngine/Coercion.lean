import TemplateEngine.Record
/-!
Coercions: the truth, number, text, sequence, mapping and time that a value stands for. An optional
stands for what it holds.
-/
namespace TemplateEngine

def isBlankText (s : String) : Bool := s.toList.all Text.isBlank

def isBlankBytes (b : List UInt8) : Bool := b.all isAsciiBlank

/-- Whether a number differs from zero; one that signals cannot be compared. -/
def World.isNonzero (w : World) (v : Value) : M Bool :=
  match w.base v with
  | .int n => return n != 0
  | .float x => return !x.isZero
  | .complex re im => return !(re.isZero && im.isZero)
  | .decimal d => if d.isSignaling then fail (.decimal .invalidOperation) else return !d.isZero
  | .fraction q => return !q.isZero
  | _ => return true

/-- The truth of a value that is no optional. -/
def truthOfContent (v : Value) : M Bool := do
  let w ← get
  match v with
  | .null => return false
  | .bool b => return b
  | v =>
    if w.isNumeric v then w.isNonzero v
    else match w.text? v, w.bytes? v with
      | some s, _ => return !isBlankText s
      | none, some b => return !isBlankBytes b
      | none, none =>
        match w.size? v, v with
        | some _, _ | none, .view .. => return 0 < (← lengthOf v)
        | none, v =>
          match w.stream? v with
          | some (kind, rest) => return 0 < (← lengthHint kind rest).getD 1
          | none => return (w.repeatable? v).all (!·.isEmpty)

/-- False for nothing, false, zero, blank texts and empty collections; an iterator that does not say
what is left is true. Nothing is consumed. -/
def toBoolean (v : Value) : M Bool := do truthOfContent ((← get).unwrap v)

def Numeral.toValue : Numeral → Value
  | .int n => .int n
  | .float x => .float x
  | .decimal d => .decimal d

/-- The number a text stands for. -/
def numberOfText (s : String) : M (Option Value) :=
  match createNumber s with
  | .ok n => return n.map Numeral.toValue
  | .error e => fail (.numeral e)

/-- Whether a text stands for a number. -/
def isCreatable (s : String) : M Bool := return (← numberOfText s).isSome

/-- What the sequence of a value is made of. -/
inductive Collected
  /-- A tuple or a view, which is its own sequence. -/
  | itself
  /-- An array, whose elements are copied. -/
  | copied
  /-- Any other sequence, which is viewed. -/
  | viewed
  | items (items : List Value)
  /-- Keys with values, of which pairs are made. -/
  | pairs (entries : List (Value × Value))

/-- The elements of an iterable that is no sequence; an iterator is emptied. -/
def collectEach (v : Value) : M Collected := do
  match v with
  | .part _ .items target =>
    let entries := ((← get).mapping? target).getD []
    if maxLength ≤ entries.length then fail .lengthTooLarge
    return .pairs entries
  | v =>
    let s ← Source.ofValue v
    checkLength v s
    match s with
    | .fixed elements => return .items elements.toList
    | s => return .items (← s.drain)

/-- What the sequence of a value that is no optional is made of. -/
def collect (v : Value) : M Collected := do
  let w ← get
  match v with
  | .null => return .items []
  | .view .. => return .itself
  | .brokenTime _ => return .items [v]
  | v =>
    if w.isTuple v then return .itself
    else if w.isArray v then return .copied
    else if w.isText v then return .items [v]
    else if w.isSequence v then return .viewed
    else if w.isMapping v || w.isIterable v then collectEach v
    else return .items [v]

/-- An immutable sequence with the elements of a value that is no optional. -/
def sequenceOfContent (v : Value) : M Value := do
  match ← collect v with
  | .itself => return v
  | .copied => newTuple (← iterate v)
  | .viewed => return .view (← freshTag) v
  | .items items => newTuple (← asObjects items)
  | .pairs entries => newTuple (← newPairs entries)

/-- The sequence of a value: tuples and views are their own, other sequences are viewed, what can be
iterated is read once, and anything else is the only element. -/
def toCollection (v : Value) : M Value := do sequenceOfContent ((← get).unwrap v)

/-- Joins texts. A member without a name has no text, and cannot be joined. -/
def joinTexts (sep : String) (texts : List Value) : M String := do
  let w ← get
  let parts ← texts.zipIdx.mapM fun (t, i) =>
    match w.text? t with
    | some s => pure s
    | none => fail (.itemNotText i (w.typeInMessages t))
  return Text.join sep parts

/-- Joins the text forms of the elements of an iterable, which are read one after the other. -/
def joinEach (sep : String) (text : Value → M Value) (collection : Value) : M String := do
  joinTexts sep (← forEach collection fun x => do
    match ← attempt (text x) with
    | .ok t => return t
    | .error f => fail (if f.kindName = "StopIteration" then .generatorStopped else f))

def replaceFlaws (b : List UInt8) : Value := .text (Text.Utf8.decodeReplacing b)

/-- The name of an enumeration member, which its class may compute. -/
def memberText (v : Value) : M Value := do
  let w ← get
  match Classes.findMember? w.classes (w.classOf v) "name" with
  | some (_, .computed _) | some (_, .routine _) => Dispatch.full.readFrom v "name"
  | _ => return memberNameValue w v

/-- The text form up to a depth of nesting. -/
def toStringWithin : (fuel : Nat) → Value → M Value
  | 0, _ => fail .nestedTooDeep
  | fuel + 1, v => do
    let w ← get
    match v, w.content? v with
    | .null, _ | _, some .null => return .text ""
    | _, some content => toStringWithin fuel content
    | .member .., none | .flags .., none => memberText v
    | .bool b, none => return .text (if b then "true" else "false")
    | v, none =>
      match w.text? v, w.bytes? v with
      | some _, _ => return v
      | none, some b => return replaceFlaws b
      | none, none =>
        if w.isCollection v then
          return .text (← joinEach "," (toStringWithin fuel) (← toCollection v))
        else textValueOf v

/-- The text that a template shows for a value: members of enumerations by name, collections as
their elements between commas. It is a text value, or nothing for a member without a name. -/
def toTemplateText (v : Value) : M Value := do
  toStringWithin ((← get).nesting v) v

/-- The characters of the text form, if it has one. -/
def templateText? (v : Value) : M (Option String) := do
  let t ← toTemplateText v
  return (← get).text? t

/-- The elements of an iterable, each as text, between commas. -/
def collectionToText (v : Value) : M String := do
  match v with
  | .null => return ""
  | v => joinEach "," toTemplateText v

def numberOfForm (v : Value) : M (Option Value) := do
  match ← templateText? v with
  | some s => numberOfText s
  | none => return none

def toNumber (v : Value) : M (Option Value) := do
  let w ← get
  match w.unwrap v with
  | .null => return none
  | v => if w.isNumeric v then return some v else numberOfForm v

/-- A number, or a value whose text form is one. -/
def isNumber (v : Value) : M Bool := do
  if v = .null then return false
  else if (← get).isNumeric v then return true
  else return (← numberOfForm v).isSome

/-- The elements of an iterable as a tuple; a plain tuple is its own. -/
def drain (v : Value) : M Value := do
  match v with
  | .null => return emptyTuple
  | .ref i =>
    match (← get).cell? i with
    | some (.tuple _) => return v
    | _ => newTuple (← iterate v)
  | v => newTuple (← iterate v)

/-- Mappings as they are, records as a new mapping of their properties, and an empty one for the
rest. -/
def toMap (v : Value) : M Value := do
  if (← get).isMapping v then return v
  else if ← isRecord v then recordMap v
  else alloc (.dict false [])

def liftCalendar (r : Except CalendarError Moment) : M Moment :=
  match r with
  | .ok m => return m
  | .error e => fail (.calendar e)

/-- The UTC instant of a date or time. -/
def toInstant (v : Value) : M (Option Value) := do
  match (← get).unwrap v with
  | .moment m | .instant m => return some (.instant (← liftCalendar (Calendar.toUtc m)))
  | .date d => return some (.instant (Calendar.midnight d))
  | .brokenTime t => return some (.instant (← liftCalendar (Calendar.ofBroken t)))
  | _ => return none

/-- The moment of a date or time; moments are kept as they are. -/
def toDate (v : Value) : M (Option Value) := do
  match (← get).unwrap v with
  | .moment m => return some (.moment m)
  | .instant m => return some (.instant m)
  | .date d => return some (.moment (Calendar.midnight d))
  | .brokenTime t => return some (.moment (← liftCalendar (Calendar.ofBroken t)))
  | _ => return none

end TemplateEngine
