import TemplateEngine.Proofs.Encoding
import TemplateEngine.Proofs.Outcome
import TemplateEngine.Proofs.TomlDocuments
import TemplateEngine.Proofs.TomlLimits
import TemplateEngine.Settings.Config
/-!
What reading a settings file ends with. Bytes that are no text fail where they are decoded; a text gives
a table, or it fails in one of three ways, each with its cause in the text.
-/
namespace TemplateEngine
open Text.Utf8

variable {f : Folder} {path : String} {bytes : List UInt8}

/-- Why reading the settings in a text failed: a flaw of grammar, told with the path of the file and
with a place in the text; a flaw whose message names a place with a number of too many digits; a number
of too many digits in the text; or values too deep inside each other. -/
inductive Refused (path text : String) : Fault → Prop
  | malformed (what : String) {rest : List Char} {message : String} {place : Option (Nat × Nat)}
      (inside : rest <:+ Toml.unifyLineEnds text.toList)
      (told : message = Toml.showFlaw (Toml.unifyLineEnds text.toList) what rest)
      (reported : reportedPlace message = .ok place) :
      Refused path text (.configLoad ("Failed to parse TOML file: " ++ message) (normalPath path) place)
  | place (what : String) {rest : List Char} {message : String} {line column run : List Char}
      (inside : rest <:+ Toml.unifyLineEnds text.toList)
      (told : message = Toml.showFlaw (Toml.unifyLineEnds text.toList) what rest)
      (named : placeIn? message.toList = some (line, column)) (either : run = line ∨ run = column)
      (long : maxIntegerDigits < run.length) :
      Refused path text (.numeral (.tooManyDigits run.length))
  | number {run : List Char} (inside : run <:+: text.toList) (long : Toml.TooLong run) :
      Refused path text (.numeral (.tooManyDigits (run.countP Toml.isAsciiDigit)))
  | depth (deep : Toml.maxRoom < Toml.bracketRoom text.toList) : Refused path text .nestedTooDeep

theorem readNatural_of_short {digits : List Char} (short : digits.length ≤ maxIntegerDigits) :
    readNatural digits = .ok (Text.readDecimal digits) := by
  rw [readNatural, readInteger, if_neg (Nat.not_lt.mpr short)]
  rfl

theorem readNatural_of_long {digits : List Char} (long : maxIntegerDigits < digits.length) :
    readNatural digits = .error (.tooManyDigits digits.length) := by
  rw [readNatural, readInteger, if_pos long]
  rfl

/-- The numbers of a place, which is named somewhere in a message. -/
theorem reportedPlace_of_some {message : String} {line column : List Char}
    (named : placeIn? message.toList = some (line, column)) :
    reportedPlace message = (do return some (← readNatural line, ← readNatural column)) := by
  rw [reportedPlace, named]

/-- A place is not reported only where one of its numbers is too long. -/
theorem reportedPlace_error {message : String} {e : NumeralError}
    (failed : reportedPlace message = .error e) : ∃ line column run,
      placeIn? message.toList = some (line, column) ∧ (run = line ∨ run = column) ∧
        maxIntegerDigits < run.length ∧ e = .tooManyDigits run.length := by
  cases named : placeIn? message.toList with
  | none =>
    rw [reportedPlace, named] at failed
    cases failed
  | some place =>
    obtain ⟨line, column⟩ := place
    rw [reportedPlace_of_some named] at failed
    by_cases long : maxIntegerDigits < line.length
    · rw [readNatural_of_long long] at failed
      cases failed
      exact ⟨line, column, line, rfl, .inl rfl, long, rfl⟩
    rw [readNatural_of_short (Nat.not_lt.mp long)] at failed
    by_cases wide : maxIntegerDigits < column.length
    · rw [readNatural_of_long wide] at failed
      cases failed
      exact ⟨line, column, column, rfl, .inr rfl, wide, rfl⟩
    · rw [readNatural_of_short (Nat.not_lt.mp wide)] at failed
      cases failed

theorem readSettingsFile_of_flaw {place : Illformed} (there : f.read path = .ok bytes)
    (flaw : decode bytes = .error place) :
    readSettingsFile f path = .error (.undecodable place) := by
  simp only [readSettingsFile, there, bind, Except.bind, flaw]

theorem readSettingsFile_of_text {text : String} (there : f.read path = .ok bytes)
    (decoded : decode bytes = .ok text) :
    (∃ entries, Toml.read text = .ok entries ∧ readSettingsFile f path = .ok entries) ∨
      ∃ e, Refused path text e ∧ readSettingsFile f path = .error e := by
  simp only [readSettingsFile, there, bind, Except.bind, decoded]
  cases found : Toml.read text with
  | ok entries => exact .inl ⟨entries, rfl, rfl⟩
  | error failure =>
    have fits := Toml.read_error found
    cases failure with
    | malformed message =>
      obtain ⟨what, rest, inside, told⟩ := fits
      refine .inr ⟨flawFault path message, ?_, rfl⟩
      rw [flawFault]
      cases reported : reportedPlace message with
      | ok place => exact .malformed what inside told reported
      | error e =>
        obtain ⟨line, column, run, named, either, long, rfl⟩ := reportedPlace_error reported
        exact .place what inside told named either long
    | number e =>
      obtain ⟨run, inside, long, rfl⟩ := fits
      exact .inr ⟨_, .number inside long, rfl⟩
    | depth => exact .inr ⟨_, .depth fits, rfl⟩

/-- A file fails with an integer of too many digits, whatever key it stands under. -/
theorem readSettingsFile_too_long {key digits : List Char} {c : Char}
    (bare : ∀ c ∈ key, Toml.isBareKey c) (named : key ≠ []) (zero : c ≠ '0')
    (all : ∀ d ∈ c :: digits, Toml.isAsciiDigit d) (long : maxIntegerDigits < (c :: digits).length)
    (there : f.read path = .ok (encode (key ++ '=' :: c :: digits))) :
    readSettingsFile f path = .error (.numeral (.tooManyDigits (c :: digits).length)) := by
  simp only [readSettingsFile, there, bind, Except.bind, decode_encode,
    Toml.read_too_long bare named zero all long]

/-- A file fails with arrays too deep inside each other, whatever key they stand under and whatever
follows. -/
theorem readSettingsFile_too_deep {key rest : List Char} {n : Nat}
    (bare : ∀ c ∈ key, Toml.isBareKey c) (named : key ≠ []) (deep : Toml.maxRoom < Toml.arrayRoom * n)
    (there : f.read path = .ok (encode (key ++ '=' :: (List.replicate n '[' ++ rest)))) :
    readSettingsFile f path = .error .nestedTooDeep := by
  simp only [readSettingsFile, there, bind, Except.bind, decode_encode,
    Toml.read_too_deep bare named deep rest]

/-- A configuration from a file fails where reading its settings does, before anything is changed; else
it is made of what was read. -/
theorem outcome_ofFile (f : Folder) (path : String) (w : World) :
    outcome (Config.ofFile f path) w =
      match readSettingsFile f path with
      | .error e => (.error e, w)
      | .ok entries =>
        outcome (Config.ofSettings (Settings.generalKeys entries) (some (normalPath path))) w := by
  rw [Config.ofFile, outcome_bind, outcome_liftResult]
  cases readSettingsFile f path <;> rfl

theorem undecodable_iff {place : Illformed} (there : f.read path = .ok bytes) :
    readSettingsFile f path = .error (.undecodable place) ↔ decode bytes = .error place := by
  constructor
  · intro failed
    cases decoded : decode bytes with
    | error found =>
      rw [readSettingsFile_of_flaw there decoded] at failed
      cases failed
      rfl
    | ok text =>
      obtain ⟨entries, -, read⟩ | ⟨e, refused, read⟩ := readSettingsFile_of_text there decoded
      · rw [read] at failed
        cases failed
      · rw [read] at failed
        cases failed
        cases refused
  · exact readSettingsFile_of_flaw there

/-- Whatever bytes a settings file holds: they are no text exactly if reading it fails in decoding them,
and then it does so at the byte after the longest text that they begin with. If they are a text, either
its table is read, or reading it fails with a flaw of grammar, which is told with the path of the file
and with its place, or with a number of more digits than an integer may have, or with values too deep
inside each other, and then there are such digits, there or in what the flaw is told with, or brackets
in the text. A configuration from the file fails in the same way, and else it is made of what was
read. -/
theorem settings_file_outcomes (there : f.read path = .ok bytes) :
    ((∃ place, readSettingsFile f path = .error (.undecodable place)) ↔
      ¬ bytes.toByteArray.IsValidUTF8) ∧
    (∀ place, readSettingsFile f path = .error (.undecodable place) →
      bytes[place.start]? = some place.byte ∧ LongestText bytes place.start) ∧
    (∀ text : String, bytes.toByteArray = text.toUTF8 →
      (∃ entries, Toml.read text = .ok entries ∧ readSettingsFile f path = .ok entries) ∨
        ∃ e, Refused path text e ∧ readSettingsFile f path = .error e) ∧
    ∀ w, outcome (Config.ofFile f path) w =
      match readSettingsFile f path with
      | .error e => (.error e, w)
      | .ok entries =>
        outcome (Config.ofSettings (Settings.generalKeys entries) (some (normalPath path))) w := by
  refine ⟨?_, ?_, ?_, outcome_ofFile f path⟩
  · simp only [undecodable_iff there]
    exact decode_fails_iff
  · intro place failed
    exact decode_eq_error ((undecodable_iff there).mp failed)
  · intro text encoded
    exact readSettingsFile_of_text there (decode_eq_ok.mpr encoded)

/-- A file with a single byte that begins no character. -/
theorem settings_file_outcomes_undecodable :
    let f : Folder := Folder.write [] "sightly.toml" [0xff]
    f.read "sightly.toml" = .ok [0xff] ∧
      ∃ place, readSettingsFile f "sightly.toml" = .error (.undecodable place) := by
  have there : (Folder.write [] "sightly.toml" [0xff]).read "sightly.toml" = .ok [0xff] := by
    decide +kernel
  have flawed : ∃ place, decode [0xff] = .error place := ⟨⟨0xff, 0, 1, .startByte⟩, rfl⟩
  exact ⟨there, (settings_file_outcomes there).1.mpr (decode_fails_iff.mp flawed)⟩

end TemplateEngine
