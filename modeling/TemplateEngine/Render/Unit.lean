import TemplateEngine.Render.Extension
/-!
Rendering of units. A unit sees the global variables, then the units beside it, then its own
sub-units; a later one hides an earlier one of the same folded name. Arguments are kept apart. A
called unit sees nothing of its caller but the arguments.
-/
namespace TemplateEngine

/-- The bodies of all units, by number. -/
abbrev Program := Array Body

/-- Puts a unit under another one. -/
def attachUnit (owner : UnitId) (name : Value) (child : UnitId) : M Unit := do
  let w ← get
  let folded := (w.text? name).map Text.foldCase
  let (result, forest) := w.forest.attach owner folded child
  modify fun w => { w with forest := forest }
  match result with
  | .ok () => return ()
  | .error .nameNotText => fail (.nameNotText (w.typeName name))
  | .error .alreadyAttached => fail (.alreadyAttached (← textOf name))

/-- A new mapping of units by name. -/
def newUnitTable (units : Table String UnitId) : M Value :=
  alloc (.dict false (units.map fun (name, u) => (.text name, .unit u)))

/-- The scope that the body of a unit is given. -/
def unitScope (globals : Value) (u : UnitId) : M Value := do
  let scope ← Bindings.make Dispatch.full globals
  let forest := (← get).forest
  let entries (units : Table String UnitId) :=
    units.map fun (name, u) => ((⟨name, .text name⟩ : Name Value), Value.unit u)
  let s ← Bindings.scopeOf scope
  let s := s.insertAll (entries ((forest.siblings? u).getD []))
  Bindings.setScope scope (s.insertAll (entries (forest.subs u)))
  return scope

/-- Entries under the texts of their keys, in order; a later one of the same text wins. -/
def namedArguments (entries : List (Value × Value)) :
    List (Value × Value) → M (List (Value × Value))
  | [] => return entries
  | (k, v) :: rest => do
    let name ← toTemplateText k
    namedArguments (← insertEntry entries name v) rest

/-- The arguments of a call as a mapping with texts as keys. -/
def callArguments (arguments : Value) : M Value := do
  let map ← toMap arguments
  let entries ← namedArguments [] (((← get).mapping? map).getD [])
  return .readOnly (← freshTag) (← alloc (.dict false entries))

/-- Why a value that is no unit cannot be called. -/
def callFailure (model : ObjectModel) (template : Value) : M Fault := do
  let w ← get
  if template = .null then
    return .templateCall .null ⟨template, "data-sly-call: expression evaluates to null."⟩
  else if ← model.isPrimitive template then
    let shown := (← templateText? template).getD "None"
    return .templateCall .primitive ⟨template,
      "data-sly-call: primitive \"" ++ shown ++ "\" does not represent a HTL template."⟩
  else if (w.text? template).isSome then
    return .templateCall .string ⟨template,
      "data-sly-call: String '" ++ (← textOf template) ++ "' does not represent a HTL template."⟩
  else
    return .templateCall .wrongType ⟨template,
      "data-sly-call: " ++ Classes.fullName w.classes (w.classOf template) ++
        " does not represent a HTL template."⟩

/-- What a body works on: the unit that it belongs to, its variables, and the item of the loop
around. -/
structure Frame where
  unit : UnitId
  scope : Value
  arguments : Value
  item : Value

def Frame.source (f : Frame) : Variables → Value
  | .scope => f.scope
  | .arguments => f.arguments

/-- The length of the arguments that a unit is rendered with. -/
def argumentCount (arguments : Value) : M Nat :=
  if arguments = .null then return 0 else lengthOf arguments

namespace Render

variable (c : Context)

/-- Sets up the variables of a unit and runs its body with them. -/
def renderUnit (runBody : Frame → UnitId → Render Unit) (u : UnitId) (arguments : Value) :
    Render Unit := do
  let scope ← onWorld (unitScope c.globals u)
  let size ← onWorld (return (← Bindings.scopeOf scope).size)
  let count ← onWorld (argumentCount arguments)
  let name ← onWorld (return (← get).qualifiedName ((← get).classOf (.unit u)))
  log c .debug "render_unit"
    [("unit", .text name), ("scope", .int size), ("arguments", .int count)]
  let arguments ← onWorld (Bindings.make Dispatch.full arguments)
  runBody ⟨u, scope, arguments, .null⟩ u

/-- Calls a value as a template: a unit is rendered with the arguments, any other value is
refused. -/
def callUnit (render : UnitId → Value → Render Unit) (template arguments : Value) :
    Render Unit := do
  match template with
  | .unit u => do
    let map ← onWorld (callArguments arguments)
    let count ← onWorld (argumentCount map)
    let name ← onWorld (return (← get).qualifiedName ((← get).classOf template))
    log c .debug "call_unit" [("unit", .text name), ("arguments", .int count)]
    render u map
  | template => do
    let failure ← onWorld (callFailure c.model template)
    match failure with
    | .templateCall kind _ =>
      log c .warning "call_unit_failed"
        [("kind", .text kind.name), ("error", .text failure.message)]
    | _ => pure ()
    throw failure

mutual

def eval (f : Frame) : Expr → Render Value
  | .literal r => onWorld (make r)
  | .variable source name => onWorld do Bindings.read (f.source source) (← make name)
  | .member source prop => onWorld do c.model.resolveProperty (f.source source) (← make prop)
  | .property target prop => do
    let target ← eval f target
    let prop ← eval f prop
    onWorld (c.model.resolveProperty target prop)
  | .extension name arguments => do
    let arguments ← evalAll f arguments
    callExtension c (.text name) arguments
  | .map names values => do
    let values ← evalAll f values
    onWorld do
      let names ← makeAll names
      alloc (.dict true (← insertEntries [] (names.zip values)))
  | .whole source => return f.source source
  | .self => return .unit f.unit
  | .item => return f.item

def evalAll (f : Frame) : List Expr → Render (List Value)
  | [] => return []
  | e :: rest => do
    let v ← eval f e
    return v :: (← evalAll f rest)

end

/-- Whether a failure is one of rendering itself. -/
def isRenderFailure : Fault → Bool
  | .templateCall .. | .extensionMissing _ => true
  | _ => false

/-- The variables of a scope value. -/
def noted (b : Value) : M (List Noted) := do
  let s ← Bindings.scopeOf b
  return s.entries.map fun (name, v) => ⟨name, ((s.spelling? name).map (·.text)).getD name, v⟩

mutual

/-- What a body does; `call` calls a value with arguments. -/
def perform (call : Value → Value → Render Unit) (f : Frame) : Instruction → Render Unit
  | .text s => write s
  | .write e => do
    let v ← eval c f e
    let text ← onWorld do
      let t ← toTemplateText v
      match (← get).text? t with
      | some s => pure s
      | none => TemplateEngine.fail (.needsText ((← get).typeInMessages t))
    write text
  | .call template none => do
    let template ← eval c f template
    call template .null
  | .call template (some arguments) => do
    let template ← eval c f template
    let arguments ← eval c f arguments
    call template arguments
  | .set target name e => do
    let v ← eval c f e
    onWorld do Bindings.write (f.source target) (← make name) v
  | .erase target name => onWorld do Bindings.erase (f.source target) (← make name)
  | .ite condition yes no => do
    let v ← eval c f condition
    if ← onWorld (toBoolean v) then performAll call f yes else performAll call f no
  | .each collection body => do
    let v ← eval c f collection
    let (items, count) ← onWorld do
      let s ← Source.ofValue (← ObjectModel.toCollection v)
      return (s, s.count (← get))
    let _ ← items.visit onWorld (fun _ x => performAll call { f with item := x } body) count 0
  | .guarded body => do
    match ← ExceptT.mk (return .ok (← (performAll call f body).run)) with
    | .ok () => return ()
    | .error failure =>
      if isRenderFailure failure then write ("<" ++ failure.kindName ++ ">") else throw failure
  | .trace label => do
    let label ← onWorld (make label)
    note ⟨label, ← onWorld (noted f.scope), ← onWorld (noted f.arguments)⟩

def performAll (call : Value → Value → Render Unit) (f : Frame) : List Instruction → Render Unit
  | [] => return ()
  | i :: rest => do
    perform call f i
    performAll call f rest

end

/-- Renders a unit; `fuel` bounds the depth of calls. -/
def renderWithin (p : Program) : (fuel : Nat) → UnitId → Value → Render Unit
  | 0, _, _ => throw .nestedTooDeep
  | fuel + 1, u, arguments =>
    renderUnit c (fun f u => performAll c (callUnit c (renderWithin p fuel)) f (p.getD u [])) u
      arguments

/-- Calls deeper than this fail. -/
def maxCallDepth : Nat := 1000

def render (p : Program) (u : UnitId) (arguments : Value) : Render Unit :=
  renderWithin c p maxCallDepth u arguments

def call (p : Program) (template arguments : Value) : Render Unit :=
  callUnit c (render c p) template arguments

end Render

end TemplateEngine
