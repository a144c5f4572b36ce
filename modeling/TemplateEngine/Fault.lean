import TemplateEngine.Number.Literal
import TemplateEngine.Value
import TemplateEngine.Text.Utf8
import TemplateEngine.Text.Quoted
/-!
Failures: what went wrong, the name of each kind, and its message.
-/
namespace TemplateEngine

/-- Why a value cannot be called as a template. -/
inductive CallFailureKind
  | null | primitive | string | wrongType
deriving DecidableEq, Repr

def CallFailureKind.all : List CallFailureKind := [.null, .primitive, .string, .wrongType]

def CallFailureKind.name : CallFailureKind → String
  | .null => "null"
  | .primitive => "primitive"
  | .string => "string"
  | .wrongType => "wrong_type"

def CallFailureKind.errorName : CallFailureKind → String
  | .null => "NullTemplateError"
  | .primitive => "PrimitiveTemplateError"
  | .string => "StringTemplateError"
  | .wrongType => "NotATemplateError"

/-- A value that cannot be called as a template, and what is said about it. -/
structure Uncallable where
  template : Value
  text : String
deriving DecidableEq, Repr

/-- What is wrong with one setting. -/
structure Issue where
  kind : String
  location : List String
deriving DecidableEq, Repr

/-- Why a number has no integer or no floating-point number. -/
inductive Unconvertible
  | floatNaN | floatInfinity | decimalNaN | decimalInfinity | signalingNaN
deriving DecidableEq, Repr

def Unconvertible.message : Unconvertible → String
  | .floatNaN => "cannot convert float NaN to integer"
  | .floatInfinity => "cannot convert float infinity to integer"
  | .decimalNaN => "cannot convert NaN to integer"
  | .decimalInfinity => "cannot convert Infinity to integer"
  | .signalingNaN => "cannot convert signaling NaN to float"

/-- How a sequence tells that an index is no integer. -/
inductive IndexStyle
  | sliceable (what : String)
  | text
  | array
  | deque
deriving DecidableEq, Repr

def IndexStyle.message (typeName : String) : IndexStyle → String
  | .sliceable what => what ++ " indices must be integers or slices, not " ++ typeName
  | .text => "string indices must be integers, not '" ++ typeName ++ "'"
  | .array => "array indices must be integers"
  | .deque => "sequence index must be integer, not '" ++ typeName ++ "'"

/-- How a sequence tells that an element is not in it. -/
inductive SearchStyle
  | listed (what : String)
  | positioned (what : String)
  | text
  | bytes
  | view
deriving DecidableEq, Repr

def SearchStyle.message (shown : String) : SearchStyle → String
  | .listed what => shown ++ " is not in " ++ what
  | .positioned what => what ++ ".index(x): x not in " ++ what
  | .text => "substring not found"
  | .bytes => "subsection not found"
  | .view => ""

/-- How a sequence tells that no number can be added to it. -/
inductive SumStyle
  | concatenates | bytes | appends
deriving DecidableEq, Repr

def SumStyle.message (typeName : String) : SumStyle → String
  | .concatenates => "can only concatenate " ++ typeName ++ " (not \"int\") to " ++ typeName
  | .bytes => "can't concat int to " ++ typeName
  | .appends => "can only append array (not \"int\") to array"

/-- Why a value is no element of an array. -/
inductive Unpackable
  | notInteger (typeName : String)
  | notReal (typeName : String)
  | notCharacter
  | tooSmall (what : String)
  | tooGreat (what : String)
  | tooLong
  | badCode
deriving DecidableEq, Repr

def Unpackable.message : Unpackable → String
  | .notInteger t => "'" ++ t ++ "' object cannot be interpreted as an integer"
  | .notReal t => "must be real number, not " ++ t
  | .notCharacter => "array item must be unicode character"
  | .tooSmall what => what ++ " is less than minimum"
  | .tooGreat what => what ++ " is greater than maximum"
  | .tooLong => "Python int too large to convert to C long"
  | .badCode => "bad typecode (must be b, B, u, h, H, i, I, l, L, q, Q, f or d)"

inductive Fault
  /-- A mapping has no entry for the key that is shown. -/
  | missingKey (shown : String)
  | emptyTable
  | unhashable (typeName : String)
  | unhashableNaN
  | nameNotText (typeName : String)
  | digitLimit
  | numeral (e : NumeralError)
  | decimal (s : Decimal.Signal)
  | intTooLarge
  | ratioTooLarge
  | infiniteRatio
  | undefinedRatio
  | negativeHint
  | indexOutOfRange (what : String)
  | popFromEmpty (what : String)
  | popFirstFromEmpty
  | noAttribute (typeName field : String)
  | classLacks (cls field : String)
  | enumLacks (field : String)
  | noSetter (cls field : String)
  | exhausted
  | calendar (e : CalendarError)
  | missingArguments (label : String) (names : List String)
  | missingKeywords (label : String) (names : List String)
  | tooManyArguments (label : String) (least most given : Nat)
  | unboundCall (label : String)
  | notCallable (typeName : String)
  | notIterable (typeName : String)
  | notIterator (typeName : String)
  | noLength (typeName : String)
  | lengthTooLarge
  | notContainer (typeName : String)
  | notSubscriptable (typeName : String)
  | classNotSubscriptable (className : String)
  | notMemberOf (typeName container : String)
  | wrongIndex (style : IndexStyle) (typeName : String)
  | indexTooLarge (typeName : String)
  | wrongSlice
  | notWritable (typeName : String)
  | textNotText (typeName : String)
  | itemNotText (index : Nat) (typeName : String)
  | notAddable (typeName : String)
  | notSummable (style : SumStyle) (typeName : String)
  | unpackable (why : Unpackable)
  | unconvertible (why : Unconvertible)
  | notInteger (typeName : String)
  | notReal (typeName : String)
  /-- A text, as it is shown, does not spell an integer. -/
  | misspeltInteger (shown : String)
  | misspeltReal (shown : String)
  | entryNotPair (index : Nat)
  | entryOfLength (index length : Nat)
  | takesNothing (cls : String)
  | takesOne (cls : String) (given : Nat)
  | notDecoded
  | abstractUnit (cls : String)
  | noMember (shown cls : String)
  | wrongReceiver (name cls typeName : String)
  | returnedNonIterable (cls method typeName : String)
  | lostClass
  | generatorStopped
  | circular
  | notJoined (typeName : String)
  | keywordNotText
  | needsText (typeName : String)
  | notOrdered (left right : String)
  | notInText (typeName : String)
  | notInBytes (typeName : String)
  | byteOutOfRange
  | tooFewValues (expected got : Nat)
  | tooManyValues (expected : Nat)
  | notUnpackable (typeName : String)
  | notFound (style : SearchStyle) (shown : String)
  | soughtNotText (typeName : String)
  | soughtNotBytes (typeName : String)
  | notReversible (typeName : String)
  | notSliceable
  | zeroStep
  | notEnumerated (text : String)
  | extensionFailed
  | raised (kind text : String)
  | frozenField (name : String)
  | templateCall (kind : CallFailureKind) (call : Uncallable)
  | alreadyAttached (name : String)
  | extensionMissing (name : String)
  | configLoad (text path : String) (location : Option (Nat × Nat))
  | invalid (issues : List Issue)
  | fileMissing (path : String)
  | isDirectory (path : String)
  | undecodable (place : Text.Utf8.Illformed)
  | nullInPath
  | unexpectedKeyword (label name : String)
  | multipleValues (label name : String)
  | noKeywords (label : String)
  | missingKeywordOnly (label name : String)
  | keyNotWritable (typeName : String)
  | noCommonOrder
  | nestedTooDeep
  /-- A text opens a list or a table inside too many others. -/
  | textTooDeep (isList : Bool)
deriving DecidableEq, Repr

namespace Fault

def plural (n : Nat) (word : String) : String := if n = 1 then word else word ++ "s"

/-- Names in quotes, the last one after "and". -/
def enumerate : List String → String
  | [] => ""
  | [a] => "'" ++ a ++ "'"
  | [a, b] => "'" ++ a ++ "' and '" ++ b ++ "'"
  | names =>
    let quoted := names.map fun n => "'" ++ n ++ "'"
    Text.join ", " quoted.dropLast ++ ", and " ++ quoted.getLastD ""

def calendarMessage : CalendarError → String
  | .yearOutOfRange y => "year " ++ Text.writeInt y ++ " is out of range"
  | .monthOutOfRange => "month must be in 1..12"
  | .fieldTooGreat => "signed integer is greater than maximum"
  | .fieldTooSmall => "signed integer is less than minimum"
  | .fieldTooLong => "Python int too large to convert to C long"
  | .dateOutOfRange => "date value out of range"
  | .secondsTooLong => "timestamp out of range for platform time_t"
  | .yearTooLong => "[Errno 75] Value too large for defined data type"

/-- The name under which a failure is known to templates. -/
def kindName : Fault → String
  | missingKey _ | emptyTable | popFirstFromEmpty => "KeyError"
  | unhashable _ | unhashableNaN | nameNotText _ | missingArguments .. | missingKeywords ..
  | tooManyArguments .. | unboundCall _ | notCallable _ | notIterable _ | notIterator _ | noLength _
  | notSubscriptable _ | classNotSubscriptable _ | notMemberOf .. | notWritable _
  | textNotText _ | itemNotText .. | notAddable _ | needsText _
  | notOrdered .. | notInText _ | notInBytes _ | notUnpackable _ | unexpectedKeyword ..
  | noKeywords _ | missingKeywordOnly .. | keyNotWritable _ | noCommonOrder | notSliceable
  | notContainer _ | wrongIndex .. | wrongSlice | notSummable .. | notInteger _ | notReal _
  | entryNotPair _ | takesNothing _ | takesOne .. | notDecoded | abstractUnit _
  | wrongReceiver .. | multipleValues .. | returnedNonIterable .. | lostClass | notJoined _
  | keywordNotText | soughtNotText _ | soughtNotBytes _ | notReversible _
  | unpackable (.notInteger _) | unpackable (.notReal _) | unpackable .notCharacter => "TypeError"
  | digitLimit | numeral (.tooManyDigits _) | undefinedRatio | negativeHint | tooFewValues ..
  | tooManyValues _ | notFound .. | byteOutOfRange | zeroStep | notEnumerated _
  | extensionFailed | misspeltInteger _ | misspeltReal _ | entryOfLength .. | noMember .. | circular
  | nullInPath | unpackable .badCode | unconvertible .floatNaN | unconvertible .decimalNaN
  | unconvertible .signalingNaN => "ValueError"
  | numeral .exponentOutOfRange | decimal .invalidOperation => "InvalidOperation"
  | decimal .overflow => "Overflow"
  | intTooLarge | ratioTooLarge | infiniteRatio | lengthTooLarge | unconvertible .floatInfinity
  | unconvertible .decimalInfinity | unpackable (.tooSmall _) | unpackable (.tooGreat _)
  | unpackable .tooLong => "OverflowError"
  | indexOutOfRange _ | popFromEmpty _ | indexTooLarge _ => "IndexError"
  | noAttribute .. | classLacks .. | enumLacks _ | noSetter .. => "AttributeError"
  | generatorStopped => "RuntimeError"
  | exhausted => "StopIteration"
  | calendar (.yearOutOfRange _) | calendar .monthOutOfRange => "ValueError"
  | calendar .yearTooLong => "OSError"
  | calendar _ => "OverflowError"
  | raised kind _ => kind
  | frozenField _ => "FrozenInstanceError"
  | templateCall kind _ => kind.errorName
  | alreadyAttached _ => "UnitAlreadyAttachedError"
  | extensionMissing _ => "ExtensionNotFoundError"
  | configLoad .. => "ConfigLoadError"
  | invalid _ => "ValidationError"
  | fileMissing _ => "FileNotFoundError"
  | isDirectory _ => "IsADirectoryError"
  | undecodable _ => "UnicodeDecodeError"
  | nestedTooDeep | textTooDeep _ => "RecursionError"

def digitsExceeded : String := "Exceeds the limit (4300 digits) for integer string conversion"

def digitAdvice : String := "; use sys.set_int_max_str_digits() to increase the limit"

def message : Fault → String
  | missingKey shown => shown
  | emptyTable => ""
  | popFirstFromEmpty => Text.quoted "popitem(): dictionary is empty"
  | unhashable t => "unhashable type: '" ++ t ++ "'"
  | unhashableNaN => "Cannot hash a signaling NaN value"
  | nameNotText t => "binding keys must be strings, not " ++ t
  | digitLimit => digitsExceeded ++ digitAdvice
  | numeral (.tooManyDigits n) =>
    digitsExceeded ++ ": value has " ++ Text.writeBase 10 n ++ " digits" ++ digitAdvice
  | numeral .exponentOutOfRange | decimal .invalidOperation =>
    "[<class 'decimal.InvalidOperation'>]"
  | decimal .overflow => "[<class 'decimal.Overflow'>]"
  | intTooLarge => "int too large to convert to float"
  | ratioTooLarge => "integer division result too large for a float"
  | infiniteRatio => "cannot convert Infinity to integer ratio"
  | undefinedRatio => "cannot convert NaN to integer ratio"
  | negativeHint => "__length_hint__() should return >= 0"
  | indexOutOfRange what => what ++ " out of range"
  | popFromEmpty what => "pop from " ++ what
  | noAttribute t a => "'" ++ t ++ "' object has no attribute '" ++ a ++ "'"
  | classLacks c a => "type object '" ++ c ++ "' has no attribute '" ++ a ++ "'"
  | enumLacks a => a
  | noSetter c a => "property '" ++ a ++ "' of '" ++ c ++ "' object has no setter"
  | exhausted => ""
  | calendar e => calendarMessage e
  | missingArguments label names =>
    label ++ "() missing " ++ Text.writeBase 10 names.length ++ " required positional " ++
      plural names.length "argument" ++ ": " ++ enumerate names
  | missingKeywords label names =>
    label ++ "() missing " ++ Text.writeBase 10 names.length ++ " required keyword-only " ++
      plural names.length "argument" ++ ": " ++ enumerate names
  | tooManyArguments label least most given =>
    label ++ "() takes " ++
      (if least = most then Text.writeBase 10 most
       else "from " ++ Text.writeBase 10 least ++ " to " ++ Text.writeBase 10 most) ++
      " positional " ++ (if least = most then plural most "argument" else "arguments") ++ " but " ++
      Text.writeBase 10 given ++
      (if given = 1 then " was given" else " were given")
  | unboundCall label => "unbound method " ++ label ++ "() needs an argument"
  | notCallable t => "'" ++ t ++ "' object is not callable"
  | notIterable t => "'" ++ t ++ "' object is not iterable"
  | notIterator t => "'" ++ t ++ "' object is not an iterator"
  | noLength t => "object of type '" ++ t ++ "' has no len()"
  | lengthTooLarge => "Python int too large to convert to C ssize_t"
  | notContainer t => "argument of type '" ++ t ++ "' is not iterable"
  | wrongIndex style t => style.message t
  | indexTooLarge t => "cannot fit '" ++ t ++ "' into an index-sized integer"
  | wrongSlice => "slice indices must be integers or None or have an __index__ method"
  | notSubscriptable t => "'" ++ t ++ "' object is not subscriptable"
  | classNotSubscriptable c => "type '" ++ c ++ "' is not subscriptable"
  | notMemberOf t container =>
    "unsupported operand type(s) for 'in': '" ++ t ++ "' and '" ++ container ++ "'"
  | notWritable t => "'" ++ t ++ "' object does not support item assignment"
  | textNotText t => "__str__ returned non-string (type " ++ t ++ ")"
  | itemNotText i t =>
    "sequence item " ++ Text.writeBase 10 i ++ ": expected str instance, " ++ t ++ " found"
  | notAddable t => "unsupported operand type(s) for +: '" ++ t ++ "' and 'int'"
  | notSummable style t => style.message t
  | unpackable why => why.message
  | unconvertible why => why.message
  | notInteger t =>
    "int() argument must be a string, a bytes-like object or a real number, not '" ++ t ++ "'"
  | notReal t => "float() argument must be a string or a real number, not '" ++ t ++ "'"
  | misspeltInteger shown => "invalid literal for int() with base 10: " ++ shown
  | misspeltReal shown => "could not convert string to float: " ++ shown
  | entryNotPair i =>
    "cannot convert dictionary update sequence element #" ++ Text.writeBase 10 i ++ " to a sequence"
  | entryOfLength i n =>
    "dictionary update sequence element #" ++ Text.writeBase 10 i ++ " has length " ++
      Text.writeBase 10 n ++ "; 2 is required"
  | takesNothing c => c ++ "() takes no arguments"
  | takesOne c given =>
    c ++ " expected at most 1 argument, got " ++ Text.writeBase 10 given
  | notDecoded => "decoding str is not supported"
  | abstractUnit c =>
    "Can't instantiate abstract class " ++ c ++ " with abstract method render_body"
  | noMember shown c => shown ++ " is not a valid " ++ c
  | wrongReceiver name c t =>
    "descriptor '" ++ name ++ "' for '" ++ c ++ "' objects doesn't apply to a '" ++ t ++ "' object"
  | returnedNonIterable c method t =>
    c ++ "." ++ method ++ "() returned a non-iterable (type " ++ t ++ ")"
  | lostClass => "super(type, obj): obj must be an instance or subtype of type"
  | generatorStopped => "generator raised StopIteration"
  | notJoined t => "can only concatenate str (not \"" ++ t ++ "\") to str"
  | keywordNotText => "keywords must be strings"
  | circular => "Circular reference detected"
  | needsText t => "string argument expected, got '" ++ t ++ "'"
  | notOrdered a b => "'<' not supported between instances of '" ++ a ++ "' and '" ++ b ++ "'"
  | notInText t => "'in <string>' requires string as left operand, not " ++ t
  | notInBytes t => "a bytes-like object is required, not '" ++ t ++ "'"
  | byteOutOfRange => "byte must be in range(0, 256)"
  | tooFewValues expected got =>
    "not enough values to unpack (expected " ++ Text.writeBase 10 expected ++ ", got " ++
      Text.writeBase 10 got ++ ")"
  | tooManyValues expected =>
    "too many values to unpack (expected " ++ Text.writeBase 10 expected ++ ")"
  | notUnpackable t => "cannot unpack non-iterable " ++ t ++ " object"
  | notFound style shown => style.message shown
  | soughtNotText t => "must be str, not " ++ t
  | soughtNotBytes t => "argument should be integer or bytes-like object, not '" ++ t ++ "'"
  | notReversible t => "'" ++ t ++ "' object is not reversible"
  | notSliceable => "sequence index must be integer, not 'slice'"
  | zeroStep => "slice step cannot be zero"
  | notEnumerated text => text
  | extensionFailed => "extension failed"
  | raised kind text => if kind = "KeyError" then Text.quoted text else text
  | frozenField name => "cannot assign to field '" ++ name ++ "'"
  | templateCall _ call => call.text
  | alreadyAttached name => "Render unit '" ++ name ++ "' is already attached to another unit"
  | extensionMissing name => "Runtime extension " ++ name ++ " is not available"
  | configLoad text .. => text
  | invalid _ => ""
  | fileMissing path => "[Errno 2] No such file or directory: " ++ Text.quoted path
  | isDirectory path => "[Errno 21] Is a directory: " ++ Text.quoted path
  | undecodable place =>
    let last := place.start + place.length - 1
    "'utf-8' codec can't decode " ++
      (if place.length = 1 then
        "byte 0x" ++ Text.padLeft '0' 2 (Text.writeBase 16 place.byte.toNat) ++ " in position " ++
          Text.writeBase 10 place.start
       else
        "bytes in position " ++ Text.writeBase 10 place.start ++ "-" ++ Text.writeBase 10 last) ++
      ": " ++ place.why.reason
  | nullInPath => "embedded null byte"
  | multipleValues label name =>
    label ++ "() got multiple values for argument '" ++ name ++ "'"
  | unexpectedKeyword label name =>
    label ++ "() got an unexpected keyword argument '" ++ name ++ "'"
  | noKeywords label => label ++ "() takes no keyword arguments"
  | missingKeywordOnly label name =>
    label ++ "() missing 1 required keyword-only argument: '" ++ name ++ "'"
  | keyNotWritable t => "keys must be str, int, float, bool or None, not " ++ t
  | noCommonOrder => "Cannot create a consistent method resolution order (MRO)"
  | nestedTooDeep => "maximum recursion depth exceeded"
  | textTooDeep isList =>
    "maximum recursion depth exceeded while decoding a JSON " ++
      (if isList then "array" else "object") ++ " from a unicode string"

/-- Whether the failure is one of an unsuitable value, texts that cannot be decoded among them. -/
def isValueError (f : Fault) : Bool :=
  ["ValueError", "UnicodeError", "UnicodeDecodeError", "UnicodeEncodeError"].contains f.kindName

/-- Whether the failure is that of an attribute that is not there. -/
def isAttributeError (f : Fault) : Bool :=
  f.kindName == "AttributeError" || f.kindName == "FrozenInstanceError"

end Fault

end TemplateEngine
