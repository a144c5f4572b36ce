import TemplateEngine.Text.CaseTables
import TemplateEngine.Text.Properties
/-!
Case folding and the case maps of texts. A capital sigma at the end of a word becomes the final
small sigma; every other letter is mapped on its own.
-/
namespace TemplateEngine.Text

def CaseMap.images (m : CaseMap) (c : Char) : List Char :=
  match m.several.lookup c.toNat with
  | some codes => codes.map Char.ofNat
  | none =>
    match m.runs.find? (·.covers c.toNat) with
    | some run => [Char.ofNat (c.toNat + run.shift).toNat]
    | none => [c]

def folding : CaseMap := ⟨foldRuns, foldSeveral⟩
def upperCase : CaseMap := ⟨upperRuns, upperSeveral⟩
def lowerCase : CaseMap := ⟨lowerRuns, lowerSeveral⟩
def titleCase : CaseMap := ⟨titleRuns, titleSeveral⟩

/-- The form under which two spellings of a name are one name. -/
def foldCase (s : String) : String :=
  String.ofList (s.toList.flatMap folding.images)

def isLetter : Char → Bool := inRanges letterRanges
def isUpper : Char → Bool := inRanges upperRanges
def isLower : Char → Bool := inRanges lowerRanges
def isCased : Char → Bool := inRanges casedRanges
def isCaseIgnorable : Char → Bool := inRanges caseIgnorableRanges

/-- Whether the first letter that is not ignored for case is cased. -/
def meetsCased (s : List Char) : Bool :=
  match s.find? (!isCaseIgnorable ·) with
  | some c => isCased c
  | none => false

/-- The lower-case images of `c` between `before` (nearest first) and `after`. -/
def lowerImages (before : List Char) (c : Char) (after : List Char) : List Char :=
  if c = 'Σ' then
    if meetsCased before && !meetsCased after then ['ς'] else ['σ']
  else lowerCase.images c

/-- Maps each letter, given the letters before it (nearest first) and after it. -/
def mapInContext (f : List Char → Char → List Char → List Char) :
    List Char → List Char → List Char
  | _, [] => []
  | before, c :: after => f before c after ++ mapInContext f (c :: before) after

def lower (s : String) : String :=
  String.ofList (mapInContext lowerImages [] s.toList)

def upper (s : String) : String :=
  String.ofList (s.toList.flatMap upperCase.images)

/-- The first letter in title case, the others in lower case. -/
def capitalize (s : String) : String :=
  String.ofList (mapInContext (fun before c after =>
    if before.isEmpty then titleCase.images c else lowerImages before c after) [] s.toList)

/-- Each cased letter in title case when no cased letter stands right before it. -/
def title (s : String) : String :=
  String.ofList (mapInContext (fun before c after =>
    if before.head?.any isCased then lowerImages before c after
    else titleCase.images c) [] s.toList)

def swapCase (s : String) : String :=
  String.ofList (mapInContext (fun before c after =>
    if isUpper c then lowerImages before c after
    else if isLower c then upperCase.images c
    else [c]) [] s.toList)

/-- The text with its first letter in upper case. -/
def upperFirst (s : String) : String :=
  match s.toList with
  | [] => ""
  | c :: rest => String.ofList (upperCase.images c ++ rest)

/-- Letters only, and at least one. -/
def isAlphabetic (s : String) : Bool :=
  !s.isEmpty && s.toList.all isLetter

/-- Every cased letter is upper case, and there is one. -/
def isUpperCase (s : String) : Bool :=
  s.toList.any isUpper && s.toList.all fun c => !isCased c || isUpper c

end TemplateEngine.Text
