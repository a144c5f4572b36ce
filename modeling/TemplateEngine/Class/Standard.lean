/-!
The classes that every template knows: their names, their ancestors, and the members that templates
may reach.
-/
namespace TemplateEngine

/-- The built-in classes. -/
inductive Standard
  | object | type | enumType | abstractType
  | none | bool | int | float | complex | decimal | fraction
  | text | bytes | bytearray
  | list | tuple | range | deque | array
  | dict | fluentMap | readOnlyMapping | bindings
  | set | frozenSet
  | dictKeys | dictValues | dictItems
  | keysView | valuesView | itemsView
  | listIterator | generator | hinted | bag | sized
  | date | time | dateTime | instant | brokenTime
  | optional | sequenceView | accessor
  | renderUnit | objectModel | abstractBase
  | function | method | nativeMethod | nativeTextMethod
  | property | fieldAccess | slotAccess | methodAccess | textMethodAccess | positionAccess
  | enumeration | plainText | intEnumeration | textEnumeration | flagEnumeration
deriving DecidableEq, Repr

/-- How a member of a built-in class is used: read as a field, called as an accessor, or neither
since it needs arguments. -/
inductive NativeUse
  | field
  | accessor
  | routine
deriving DecidableEq, Repr

namespace Standard

/-- The name of the module and the name of the class. -/
def names : Standard → String × String
  | object => ("builtins", "object")
  | type => ("builtins", "type")
  | enumType => ("enum", "EnumType")
  | abstractType => ("abc", "ABCMeta")
  | none => ("builtins", "NoneType")
  | bool => ("builtins", "bool")
  | int => ("builtins", "int")
  | float => ("builtins", "float")
  | complex => ("builtins", "complex")
  | decimal => ("decimal", "Decimal")
  | fraction => ("fractions", "Fraction")
  | text => ("builtins", "str")
  | bytes => ("builtins", "bytes")
  | bytearray => ("builtins", "bytearray")
  | list => ("builtins", "list")
  | tuple => ("builtins", "tuple")
  | range => ("builtins", "range")
  | deque => ("collections", "deque")
  | array => ("array", "array")
  | dict => ("builtins", "dict")
  | fluentMap => ("sightly.render._unit", "FluentMap")
  | readOnlyMapping => ("builtins", "mappingproxy")
  | bindings => ("sightly.render._bindings", "CaseInsensitiveBindings")
  | set => ("builtins", "set")
  | frozenSet => ("builtins", "frozenset")
  | dictKeys => ("builtins", "dict_keys")
  | dictValues => ("builtins", "dict_values")
  | dictItems => ("builtins", "dict_items")
  | keysView => ("collections.abc", "KeysView")
  | valuesView => ("collections.abc", "ValuesView")
  | itemsView => ("collections.abc", "ItemsView")
  | listIterator => ("builtins", "list_iterator")
  | generator => ("builtins", "generator")
  | hinted => ("app", "Hinted")
  | bag => ("app", "Bag")
  | sized => ("app", "Sized")
  | date => ("datetime", "date")
  | time => ("datetime", "time")
  | dateTime => ("datetime", "datetime")
  | instant => ("pendulum.datetime", "DateTime")
  | brokenTime => ("time", "struct_time")
  | optional => ("sightly.objectmodel._optional", "OptionalValue")
  | sequenceView => ("sightly.objectmodel._coerce", "SequenceView")
  | accessor => ("sightly.objectmodel._resolve", "BeanAccessor")
  | renderUnit => ("sightly.render._unit", "RenderUnit")
  | objectModel => ("sightly.objectmodel._runtime", "RuntimeObjectModel")
  | abstractBase => ("abc", "ABC")
  | function => ("builtins", "function")
  | method => ("builtins", "method")
  | nativeMethod => ("builtins", "builtin_function_or_method")
  | nativeTextMethod => ("builtins", "method-wrapper")
  | property => ("builtins", "property")
  | fieldAccess => ("builtins", "getset_descriptor")
  | slotAccess => ("builtins", "member_descriptor")
  | methodAccess => ("builtins", "method_descriptor")
  | textMethodAccess => ("builtins", "wrapper_descriptor")
  | positionAccess => ("collections", "_tuplegetter")
  | enumeration => ("enum", "Enum")
  | plainText => ("enum", "ReprEnum")
  | intEnumeration => ("enum", "IntEnum")
  | textEnumeration => ("enum", "StrEnum")
  | flagEnumeration => ("enum", "Flag")

def qualifiedName (c : Standard) : String := c.names.2

/-- The name in messages. It has the module before it for the compiled classes outside
`builtins`. -/
def nameInMessages (c : Standard) : String :=
  match c with
  | decimal | deque | array | date | time | dateTime | brokenTime => c.names.1 ++ "." ++ c.names.2
  | _ => c.names.2

/-- The classes after the class itself in its resolution order. -/
def ancestors : Standard → List Standard
  | object => []
  | bool => [int, object]
  | fluentMap => [dict, object]
  | dateTime => [date, object]
  | instant => [dateTime, date, object]
  | brokenTime => [tuple, object]
  | enumType => [type, object]
  | abstractType => [type, object]
  | renderUnit => [abstractBase, object]
  | plainText => [enumeration, object]
  | intEnumeration => [int, plainText, enumeration, object]
  | textEnumeration => [text, plainText, enumeration, object]
  | flagEnumeration => [enumeration, object]
  | _ => [object]

/-- The classes that are not compiled: their members are functions and properties. -/
def isScripted : Standard → Bool
  | fraction | fluentMap | bindings | keysView | valuesView | itemsView | instant | optional
  | sequenceView | accessor | renderUnit | objectModel | abstractBase | enumeration | plainText
  | intEnumeration | textEnumeration | flagEnumeration => true
  | _ => false

/-- The fields that are slots rather than computed. -/
def isSlot (c : Standard) (name : String) : Bool :=
  match c with
  | complex | range | brokenTime | accessor => true
  | optional => name == "value"
  | _ => false

/-- The classes that define their own `__str__`. -/
def hasOwnText : Standard → Bool
  | object | text | bytes | bytearray | decimal | fraction | date | time | dateTime | instant
  | readOnlyMapping | enumeration | intEnumeration | textEnumeration | flagEnumeration => true
  | _ => false

private def uses (use : NativeUse) (names : List String) : List (String × NativeUse) :=
  names.map (·, use)

/-- The public members of a built-in class. -/
def publicMembers : Standard → List (String × NativeUse)
  | type => [("mro", .accessor)]
  | text =>
    uses .accessor ["capitalize", "isalpha", "isupper", "lower", "split", "strip", "swapcase",
      "title", "upper"] ++ uses .routine ["center", "count", "format", "replace"]
  | bytes => uses .accessor ["decode", "split", "strip"] ++ uses .routine ["hex"]
  | list =>
    uses .accessor ["clear", "copy", "pop", "reverse", "sort"] ++
      uses .routine ["append", "count", "index", "insert"]
  | dict =>
    uses .accessor ["popitem"] ++ uses .routine ["clear", "copy", "get", "keys", "values", "items"]
  | int =>
    uses .field ["real", "imag", "numerator", "denominator"] ++
      uses .accessor ["bit_length", "bit_count", "as_integer_ratio"] ++ uses .routine ["conjugate"]
  | float =>
    uses .field ["real", "imag"] ++ uses .accessor ["is_integer", "as_integer_ratio", "hex"]
  | complex => uses .field ["real", "imag"] ++ uses .accessor ["conjugate"]
  | decimal =>
    uses .field ["real", "imag"] ++
      uses .accessor ["is_nan", "is_zero", "is_signed", "is_finite", "normalize"] ++
      uses .routine ["quantize"]
  | fraction =>
    uses .field ["numerator", "denominator", "real", "imag"] ++ uses .accessor ["as_integer_ratio"]
  | range => uses .field ["start", "stop", "step"] ++ uses .routine ["count"]
  | tuple => uses .routine ["count", "index"]
  | set => uses .routine ["add", "clear", "copy", "pop"]
  | array => uses .field ["typecode"] ++ uses .accessor ["pop"]
  | deque => uses .field ["maxlen"]
  | dictKeys => uses .field ["mapping"] ++ uses .routine ["isdisjoint"]
  | date => uses .field ["year", "month", "day"] ++ uses .routine ["isoformat", "weekday"]
  | dateTime => uses .field ["hour", "minute", "second", "microsecond"] ++ uses .routine ["date"]
  | brokenTime =>
    uses .field ["tm_year", "tm_mon", "tm_mday", "tm_hour", "tm_min", "tm_sec", "tm_wday",
      "tm_yday", "tm_isdst", "n_fields", "n_sequence_fields"]
  | enumeration => uses .field ["name", "value"]
  | optional =>
    uses .field ["value", "is_present", "EMPTY"] ++ uses .accessor ["empty"] ++
      uses .routine ["of", "or_else"]
  | sequenceView => uses .routine ["count", "index"]
  | bindings =>
    uses .accessor ["clear", "items", "keys", "values", "update", "popitem"] ++
      uses .routine ["get", "original_key", "pop", "setdefault"]
  | renderUnit =>
    uses .field ["sub_templates", "siblings"] ++ uses .accessor ["get_property_names", "obj"] ++
      uses .routine ["render", "render_body", "call_unit", "get_property", "add_sub_template"]
  | objectModel =>
    uses .routine ["is_primitive", "is_date", "is_number", "is_collection", "resolve_property",
      "get_property", "to_boolean", "to_number", "to_date", "to_instant", "to_string",
      "to_collection", "to_map"]
  | _ => []

def members (c : Standard) : List (String × NativeUse) :=
  if c.hasOwnText then ("__str__", .accessor) :: c.publicMembers else c.publicMembers

/-- The built-in classes that inputs may name. -/
def named : List (String × Standard) :=
  [("object", object), ("int", int), ("str", text), ("float", float), ("dict", dict),
   ("list", list), ("tuple", tuple), ("OptionalValue", optional), ("RenderUnit", renderUnit),
   ("RuntimeObjectModel", objectModel), ("Enum", enumeration), ("IntEnum", intEnumeration),
   ("StrEnum", textEnumeration), ("Flag", flagEnumeration), ("bool", bool)]

end Standard

end TemplateEngine
