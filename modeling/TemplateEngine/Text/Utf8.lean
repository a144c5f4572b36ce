/-!
UTF-8 as a scan from character to character. An ill-formed place is its longest part that could
begin a character; reading with replacement puts one replacement character for each such part.
-/
namespace TemplateEngine.Text.Utf8

/-- Why the bytes at a place are no character. -/
inductive Flaw
  | startByte
  | continuation
  | unexpectedEnd
deriving DecidableEq, Repr

def Flaw.reason : Flaw → String
  | .startByte => "invalid start byte"
  | .continuation => "invalid continuation byte"
  | .unexpectedEnd => "unexpected end of data"

/-- What stands at the front of some bytes: a character, or a flawed part, with its length. -/
inductive Front
  | char (c : Char) (length : Nat)
  | flawed (why : Flaw) (length : Nat)

/-- How many continuation bytes follow a lead byte, and the range of the first of them. -/
def lead? (b : UInt8) : Option (Nat × UInt8 × UInt8) :=
  if b < 0x80 then some (0, 0x80, 0xbf)
  else if b < 0xc2 then none
  else if b < 0xe0 then some (1, 0x80, 0xbf)
  else if b = 0xe0 then some (2, 0xa0, 0xbf)
  else if b = 0xed then some (2, 0x80, 0x9f)
  else if b < 0xf0 then some (2, 0x80, 0xbf)
  else if b = 0xf0 then some (3, 0x90, 0xbf)
  else if b < 0xf4 then some (3, 0x80, 0xbf)
  else if b = 0xf4 then some (3, 0x80, 0x8f)
  else none

/-- Reads `count` continuation bytes onto the code `code`; `read` bytes came before. -/
def continue? (code read : Nat) : (count : Nat) → (low high : UInt8) → List UInt8 → Front
  | 0, _, _, _ => .char (Char.ofNat code) read
  | _ + 1, _, _, [] => .flawed .unexpectedEnd read
  | count + 1, low, high, b :: rest =>
    if low ≤ b && b ≤ high then
      continue? (code * 64 + (b.toNat - 0x80)) (read + 1) count 0x80 0xbf rest
    else .flawed .continuation read

def front (b : UInt8) (rest : List UInt8) : Front :=
  match lead? b with
  | none => .flawed .startByte 1
  | some (0, _) => .char (Char.ofNat b.toNat) 1
  | some (count + 1, low, high) =>
    let bits := if count = 0 then 32 else if count = 1 then 16 else 8
    continue? (b.toNat % bits) 1 (count + 1) low high rest

/-- Reads all bytes; a flawed part counts as one replacement character. `skip` bytes are still to
pass over. -/
def decodeFrom : (skip : Nat) → List UInt8 → List Char
  | _, [] => []
  | skip + 1, _ :: rest => decodeFrom skip rest
  | 0, b :: rest =>
    match front b rest with
    | .char c length => c :: decodeFrom (length - 1) rest
    | .flawed _ length => Char.ofNat 0xfffd :: decodeFrom (length - 1) rest

def decodeReplacing (bytes : List UInt8) : String := String.ofList (decodeFrom 0 bytes)

/-- An ill-formed place: where it starts, how long it is and what is wrong. -/
structure Illformed where
  byte : UInt8
  start : Nat
  length : Nat
  why : Flaw
deriving DecidableEq, Repr

/-- The first ill-formed place, if there is one. -/
def firstFlaw? : (skip pos : Nat) → List UInt8 → Option Illformed
  | _, _, [] => none
  | skip + 1, pos, _ :: rest => firstFlaw? skip (pos + 1) rest
  | 0, pos, b :: rest =>
    match front b rest with
    | .char _ length => firstFlaw? (length - 1) (pos + 1) rest
    | .flawed why length => some ⟨b, pos, length, why⟩

def decode (bytes : List UInt8) : Except Illformed String :=
  match firstFlaw? 0 0 bytes with
  | some place => .error place
  | none => .ok (decodeReplacing bytes)

end TemplateEngine.Text.Utf8
