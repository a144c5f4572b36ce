import TemplateEngine.Text.Properties
/-!
Blank characters and the cutting of texts: trimming, words, and the parts between separators.
-/
namespace TemplateEngine.Text

def isBlank : Char → Bool := inRanges blankRanges

/-- The list without its leading and trailing elements that satisfy `p`. -/
def trimBy {α : Type} (p : α → Bool) (s : List α) : List α :=
  ((s.dropWhile p).reverse.dropWhile p).reverse

def trim (s : String) : String := String.ofList (trimBy isBlank s.toList)

/-- The maximal runs of elements that do not satisfy `p`, in order; `run` is the run read so far. -/
def runsWithout {α : Type} (p : α → Bool) (run : List α) : List α → List (List α)
  | [] => if run.isEmpty then [] else [run.reverse]
  | c :: rest =>
    if p c then
      if run.isEmpty then runsWithout p [] rest else run.reverse :: runsWithout p [] rest
    else runsWithout p (c :: run) rest

def words (s : String) : List String := (runsWithout isBlank [] s.toList).map String.ofList

/-- The parts between the elements equal to `sep`; one more than there are separators. -/
def splitAtEach {α : Type} [BEq α] (sep : α) : List α → List (List α)
  | [] => [[]]
  | c :: rest =>
    if c == sep then [] :: splitAtEach sep rest
    else
      match splitAtEach sep rest with
      | [] => [[c]]
      | part :: parts => (c :: part) :: parts

/-- The characters that end a line. -/
def endsLine (c : Char) : Bool :=
  ['\n', '\x0b', '\x0c', '\r', '\x1c', '\x1d', '\x1e', '\x85', '\u2028', '\u2029'].contains c

/-- The lines after what was read of the first one, its last character first. A carriage return and
a line feed after it end one line together; what follows the last end is a line if it is not
empty. -/
def linesAfter (line : List Char) : List Char → List (List Char)
  | [] => if line.isEmpty then [] else [line.reverse]
  | '\r' :: '\n' :: rest => line.reverse :: linesAfter [] rest
  | c :: rest =>
    if endsLine c then line.reverse :: linesAfter [] rest else linesAfter (c :: line) rest

def lines (s : String) : List String := (linesAfter [] s.toList).map String.ofList

/-- Reads `pat` off the front. -/
def dropPrefix? {α : Type} [BEq α] : (pat s : List α) → Option (List α)
  | [], s => some s
  | _ :: _, [] => none
  | p :: pat, c :: s => if p == c then dropPrefix? pat s else none

theorem dropPrefix?_eq_some_iff {α : Type} [BEq α] [LawfulBEq α] {pat s rest : List α} :
    dropPrefix? pat s = some rest ↔ s = pat ++ rest := by
  induction pat generalizing s with
  | nil => simp [dropPrefix?]
  | cons p pat ih =>
    cases s with
    | nil => simp [dropPrefix?]
    | cons c s =>
      by_cases same : p = c
      · simp [dropPrefix?, same, ih]
      · simp [dropPrefix?, same, Ne.symm same]

/-- Joins texts with a separator between neighbours. -/
def join (sep : String) : List String → String
  | [] => ""
  | [s] => s
  | s :: rest => s ++ sep ++ join sep rest

def hasPrefix (pat s : String) : Bool := (dropPrefix? pat.toList s.toList).isSome

/-- The text, filled with blanks on the right up to `width`. -/
def padRight (width : Nat) (s : String) : String :=
  s ++ String.ofList (List.replicate (width - s.toList.length) ' ')

/-- The text, filled with `fill` on the left up to `width`. -/
def padLeft (fill : Char) (width : Nat) (s : String) : String :=
  String.ofList (List.replicate (width - s.toList.length) fill) ++ s

end TemplateEngine.Text
