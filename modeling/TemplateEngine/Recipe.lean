import TemplateEngine.Value
/-!
Descriptions of values and classes. Building a description makes new objects each time.
-/
namespace TemplateEngine

inductive CollectionKind
  | list | tuple | deque | set | frozenSet | bag | sized
  | array (code : Char)
  | stream (kind : Stream)
deriving DecidableEq, Repr

inductive TableKind
  | dict | fluent | readOnly | bindings
  | part (which : MappingPart)
deriving DecidableEq, Repr

/-- How to make a value. -/
inductive Recipe
  | known (v : Value)
  /-- A number whose NaNs are new ones. -/
  | number (v : Value)
  | bytearray (bytes : List UInt8)
  | collection (kind : CollectionKind) (items : List Recipe)
  | table (kind : TableKind) (keys values : List Recipe)
  | view (target : Recipe)
  | optional (content : Recipe)
  | named (label : String) (fields : List String) (values : List Recipe)
  | type (name : String)
  | member (enumeration name : String)
  | flags (enumeration : String) (bits : Nat)
  | object (cls : String) (names : List String) (values base : List Recipe)
  | accessor (name owner : String)
  | unit (name : String)
  | variable (name : String)

/-- What a method or computed attribute does with its arguments; the first one is the receiver. -/
inductive Action
  | give (r : Recipe)
  | fail (kind text : String)
  | read (field : String)
  | increment (field : String)
  | lookUp (keys values : List Recipe)

inductive ParamKind
  | positional
  | positionalOnly
  | rest
  | keywordOnly
  | keywords
deriving DecidableEq, Repr

structure Param where
  name : String
  kind : ParamKind
  hasDefault : Bool
deriving DecidableEq, Repr

inductive Binding
  | receiver
  | static
  | onClass
deriving DecidableEq, Repr

structure Routine where
  /-- The name with the class's name before it. -/
  label : String
  binding : Binding
  params : List Param
  action : Action

inductive ClassKind
  | plain | enumeration | intEnumeration | textEnumeration | flagEnumeration
deriving DecidableEq, Repr

/-- How to make a class. -/
structure ClassRecipe where
  name : String
  kind : ClassKind
  bases : List String
  slots : Option (List String)
  annotations : List String
  attributes : List (String × Recipe)
  properties : List (String × Action)
  routines : List (String × Routine)
  members : List (String × Recipe)

end TemplateEngine
