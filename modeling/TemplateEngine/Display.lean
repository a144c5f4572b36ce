import TemplateEngine.Equality
import TemplateEngine.Number.Shortest
/-!
The display form of values: each kind in its own brackets, texts quoted, and a collection inside
itself shown by dots.
-/
namespace TemplateEngine

/-- Shows an integer; one with too many digits is refused. -/
def showInt (n : Int) : Except Fault String :=
  if Nat.pow 10 maxIntegerDigits ≤ n.natAbs then .error .digitLimit else .ok (Text.writeInt n)

/-- Shows values between commas. -/
def showList (shown : Value → Except Fault String) : List Value → Except Fault String
  | [] => .ok ""
  | [x] => shown x
  | x :: xs => return (← shown x) ++ ", " ++ (← showList shown xs)

def showEntries (shown : Value → Except Fault String) :
    List (Value × Value) → Except Fault String
  | [] => .ok ""
  | [(k, v)] => return (← shown k) ++ ": " ++ (← shown v)
  | (k, v) :: rest =>
    return (← shown k) ++ ": " ++ (← shown v) ++ ", " ++ (← showEntries shown rest)

def showFields (shown : Value → Except Fault String) :
    List (String × Value) → Except Fault String
  | [] => .ok ""
  | [(k, v)] => return k ++ "=" ++ (← shown v)
  | (k, v) :: rest => return k ++ "=" ++ (← shown v) ++ ", " ++ (← showFields shown rest)

def showPair (shown : Value → Except Fault String) (entry : Value × Value) : Except Fault String :=
  return "(" ++ (← shown entry.1) ++ ", " ++ (← shown entry.2) ++ ")"

/-- The text of an offset as a duration, which counts days and seconds of the day. -/
def showOffset (offset : Int) : String :=
  if offset = 0 then "datetime.timezone.utc"
  else
    let days := offset / Calendar.secondsPerDay
    let seconds := offset % Calendar.secondsPerDay
    let parts := (if days = 0 then [] else ["days=" ++ Text.writeInt days]) ++
      (if seconds = 0 then [] else ["seconds=" ++ Text.writeInt seconds])
    "datetime.timezone(datetime.timedelta(" ++ Text.join ", " parts ++ "))"

/-- Hour and minute always, then seconds and microseconds as far as there are some. -/
def clockFields (t : TimeOfDay) : List Int :=
  [t.hour, t.minute] ++
    (if t.micro ≠ 0 then [t.second, t.micro] else if t.second ≠ 0 then [t.second] else [])

def showMoment (m : Moment) : String :=
  "datetime.datetime(" ++
    fieldList ([m.date.year, m.date.month, m.date.day] ++ clockFields m.time) ++
    (match m.offset with
     | some offset => ", tzinfo=" ++ showOffset offset
     | none => "") ++ ")"

def showInstant (m : Moment) : String :=
  let t := m.time
  "DateTime(" ++
    fieldList ([m.date.year, m.date.month, m.date.day, t.hour, t.minute, t.second] ++
      (if t.micro = 0 then [] else [t.micro])) ++ ", tzinfo=Timezone('UTC'))"

def showBrokenTime (t : BrokenTime) : String :=
  let names := ["tm_year", "tm_mon", "tm_mday", "tm_hour", "tm_min", "tm_sec", "tm_wday", "tm_yday",
    "tm_isdst"]
  "time.struct_time(" ++
    Text.join ", " (names.zipWith (fun n f => n ++ "=" ++ Text.writeInt f) t.fields) ++ ")"

namespace World

def showClass (w : World) (c : ClassId) : String :=
  let name := Classes.simpleName w.classes c
  if Classes.isSubclass w.classes c (.standard .flagEnumeration) then "<flag '" ++ name ++ "'>"
  else if Classes.isEnumeration w.classes c then "<enum '" ++ name ++ "'>"
  else
    let name := Classes.qualifiedName w.classes c
    let module_ := Classes.moduleName c
    "<class '" ++ (if module_ = "builtins" then name else module_ ++ "." ++ name) ++ "'>"

/-- The name and value under which a member of an enumeration is known. -/
def memberName? (w : World) (enumeration index : Nat) : Option EnumName :=
  (w.class? enumeration).bind fun info => info.names.find? (·.index == index)

/-- The name of a flag value: its own, or those of its parts joined by bars; nothing for no flag. -/
def flagName? (w : World) (cls bits : Nat) : Option String :=
  match (w.class? cls).bind fun info => info.names.find? fun n => n.value == .int bits with
  | some n => some n.name
  | none =>
    if bits = 0 then none
    else some (Text.join "|" ((w.flagParts cls bits).filterMap fun
      | .flags _ b =>
        (w.class? cls).bind fun info => (info.names.find? fun n => n.value == .int b).map (·.name)
      | _ => none))

/-- The label of a routine: its name with the class's name before it. -/
def routineLabel (w : World) (owner : ClassId) (name : String) : String :=
  match Classes.ownMember? w.classes owner name with
  | some (.routine r) => r.label
  | _ => w.qualifiedName owner ++ "." ++ name

def showUnbound (w : World) (owner : ClassId) (name : String) : String :=
  let place := "'" ++ name ++ "' of '" ++ Classes.simpleName w.classes owner ++ "' objects>"
  match Classes.accessClass w.classes owner name with
  | .fieldAccess => "<attribute " ++ place
  | .slotAccess => "<member " ++ place
  | .methodAccess => "<method " ++ place
  | .textMethodAccess => "<slot wrapper " ++ place
  | c => "<" ++ c.qualifiedName ++ ">"

/-- The display form up to a depth of nesting; `path` holds the values that are being shown. -/
def showWithin (w : World) : (fuel : Nat) → (path : List Value) → Value → Except Fault String
  | 0, _, _ => .error .nestedTooDeep
  | fuel + 1, path, v =>
    let inner := w.showWithin fuel path
    let nested := w.showWithin fuel (v :: path)
    let seen := path.contains v
    match v with
    | .null => .ok "None"
    | .bool b => .ok (if b then "True" else "False")
    | .int n => showInt n
    | .float x => .ok x.toText
    | .complex re im => .ok (complexText re im)
    | .decimal d => .ok ("Decimal('" ++ d.toText ++ "')")
    | .fraction q => return "Fraction(" ++ (← showInt q.num) ++ ", " ++ (← showInt q.den) ++ ")"
    | .text s => .ok (Text.quoted s)
    | .bytes b => .ok (Text.quotedBytes false b)
    | .range i j k =>
      return "range(" ++
        Text.join ", " (← ([i, j] ++ if k = 1 then [] else [k]).mapM showInt) ++ ")"
    | .date d => .ok ("datetime.date(" ++ fieldList [d.year, d.month, d.day] ++ ")")
    | .time t => .ok ("datetime.time(" ++ fieldList (clockFields t) ++ ")")
    | .moment m => .ok (showMoment m)
    | .instant m => .ok (showInstant m)
    | .brokenTime t => .ok (showBrokenTime t)
    | .type c => .ok (w.showClass c)
    | .member e i =>
      match w.memberName? e i with
      | some n =>
        return "<" ++ Classes.simpleName w.classes (.declared e) ++ "." ++ n.name ++ ": " ++
          (← inner n.value) ++ ">"
      | none => .ok ""
    | .flags e bits =>
      .ok ("<" ++ Classes.simpleName w.classes (.declared e) ++
        (match w.flagName? e bits with
         | some name => "." ++ name
         | none => "") ++ ": " ++ Text.writeBase 10 bits ++ ">")
    | .optional _ x =>
      if seen then .ok "..." else return "OptionalValue(value=" ++ (← nested x) ++ ")"
    | .view _ x => return "SequenceView(" ++ (← inner x) ++ ")"
    | .readOnly _ x => return "mappingproxy(" ++ (← inner x) ++ ")"
    | .part _ which target =>
      let entries := (w.mapping? target).getD []
      match w.baseCell? target, which with
      | some (.bindings _), .keys => return "KeysView(" ++ (← inner target) ++ ")"
      | some (.bindings _), .values => return "ValuesView(" ++ (← inner target) ++ ")"
      | some (.bindings _), .items => return "ItemsView(" ++ (← inner target) ++ ")"
      | _, _ =>
        if seen then .ok "..."
        else match which with
          | .keys => return "dict_keys([" ++ (← showList nested (entries.map Prod.fst)) ++ "])"
          | .values => return "dict_values([" ++ (← showList nested (entries.map Prod.snd)) ++ "])"
          | .items =>
            return "dict_items([" ++ Text.join ", " (← entries.mapM (showPair nested)) ++ "])"
    | .accessor name owner =>
      .ok ("BeanAccessor(name=" ++ Text.quoted name ++ ", owner=" ++ w.showClass owner ++ ")")
    | .unit _ => .ok ("<" ++ w.qualifiedName (w.classOf v) ++ ">")
    | .subUnits owner =>
      let entries := (w.forest.subs owner).map fun (n, u) => (.text n, .unit u)
      return "mappingproxy(\x7b" ++ (← showEntries inner entries) ++ "\x7d)"
    | .bound _ owner name receiver =>
      return "<bound method " ++ w.routineLabel owner name ++ " of " ++ (← inner receiver) ++ ">"
    | .unbound owner name => .ok (w.showUnbound owner name)
    | .ref i =>
      match w.cell? i with
      | none => .ok ""
      | some (.list items) =>
        if seen then .ok "[...]" else return "[" ++ (← showList nested items) ++ "]"
      | some (.tuple items) =>
        if seen then .ok "(...)"
        else match items with
          | [x] => return "(" ++ (← nested x) ++ ",)"
          | items => return "(" ++ (← showList nested items) ++ ")"
      | some (.deque items) =>
        if seen then .ok "[...]" else return "deque([" ++ (← showList nested items) ++ "])"
      | some (.array code items) =>
        let mark := "array('" ++ String.ofList [code] ++ "'"
        if items.isEmpty then .ok (mark ++ ")")
        else if code = 'u' then
          .ok (mark ++ ", " ++
            Text.quoted (String.join (items.map fun | .text s => s | _ => "")) ++ ")")
        else return mark ++ ", [" ++ (← showList nested items) ++ "])"
      | some (.set frozen items) =>
        if frozen then
          if items.isEmpty then .ok "frozenset()"
          else return "frozenset(\x7b" ++ (← showList nested items) ++ "\x7d)"
        else if items.isEmpty then .ok "set()"
        else return "\x7b" ++ (← showList nested items) ++ "\x7d"
      | some (.bytearray b) => .ok ("bytearray(" ++ Text.quotedBytes true b ++ ")")
      | some (.dict _ entries) =>
        if seen then .ok "\x7b...\x7d"
        else return "\x7b" ++ (← showEntries nested entries) ++ "\x7d"
      | some (.bindings scope) =>
        if seen then .ok "CaseInsensitiveBindings(\x7b...\x7d)"
        else
          return "CaseInsensitiveBindings(\x7b" ++
            (← showEntries nested (scope.stored.map fun (n, x) => (n.given, x))) ++ "\x7d)"
      | some (.object cls _ base) =>
        match w.class? cls, base with
        | _, some (.optional _ x) =>
          if seen then .ok "..."
          else return w.qualifiedName (.declared cls) ++ "(value=" ++ (← nested x) ++ ")"
        | some info, some b =>
          match info.fields, w.baseCell? b with
          | some fields, some (.tuple items) =>
            return Classes.simpleName w.classes (.declared cls) ++ "(" ++
              (← showFields nested (fields.zip items)) ++ ")"
          | _, _ => nested b
        | _, _ => .ok ("<" ++ w.qualifiedName (.declared cls) ++ ">")
      | some (.stream ..) | some (.bag _) | some (.sized _) | some (.blank _) =>
        .ok ("<" ++ w.qualifiedName (w.classOf v) ++ ">")

def display (w : World) (v : Value) : Except Fault String := w.showWithin (w.nesting v) [] v

end World

def displayed (v : Value) : M String := do liftResult ((← get).display v)

end TemplateEngine
