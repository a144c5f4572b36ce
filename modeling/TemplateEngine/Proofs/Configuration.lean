import TemplateEngine.Proofs.SettingsNames
import TemplateEngine.Proofs.Transparency
/-!
What merged settings make of a configuration. Each setting of a configuration depends on what is at its
own path only, and has its default when nothing is there or nothing that makes sense. A section that is
no table is not taken for a missing one, and fails.
-/
namespace TemplateEngine

variable {w w' : World} {v : Value} {α : Type}

namespace Settings

/-! ## Single settings -/

/-- What a setting names, in any case. -/
def nameOr (ofName? : String → Option α) (default_ : α) : Option (Tree String Value) → α
  | some (.leaf (.text s)) => (ofName? (Text.lower s)).getD default_
  | _ => default_

/-- What a setting is written out as. -/
def textOr (default_ : String) : Option (Tree String Value) → Except Fault String
  | some t => t.text
  | none => .ok default_

def truthOr (default_ : Bool) : Option (Tree String Value) → Bool
  | some (.leaf (.bool b)) => b
  | _ => default_

/-- The name of the type of what settings make. -/
def typeName : Tree String Value → String
  | .leaf v => World.typeInMessages {} v
  | .list _ => "list"
  | .table _ => "dict"

/-- A section may be missing, but nothing else than a table may stand in its place. -/
def checkSection (settings : Table String (Tree String Value)) (name : String) : Except Fault Unit :=
  match Table.get? settings name with
  | none | some (.table _) => .ok ()
  | some t => .error (.noAttribute (typeName t) "get")

end Settings

open World Settings

/-! ## Values in place of tables -/

/-- A value that is neither a table nor an object has no entries to be asked for. -/
theorem outcome_get_asked (type : ∀ c, v ≠ .type c) (unmapped : w.mapping? v = none)
    (unscoped : ∀ scope, w.baseCell? v ≠ some (.bindings scope))
    (missing : Classes.findMember? w.classes (w.classOf v) "get" = none)
    (bare : (w.ownAttributes v).get? "get" = none) (name : String) (fallback : Value) :
    outcome (Config.Section.get (.asked v) name fallback) w =
      (.error (.noAttribute (w.typeInMessages v) "get"), w) := by
  have unread : outcome (Dispatch.full.readFrom v "get") w =
      (.error (.noAttribute (w.typeInMessages v) "get"), w) := by
    rw [Dispatch.readFrom, outcome_bind_ok (outcome_read_missing type missing bare)]
    dsimp only
    rw [outcome_get_bind]
    split
    · exact absurd rfl (type _)
    · rfl
  simp only [Config.Section.get]
  change outcome (get >>= _) w = _
  rw [outcome_get_bind]
  split
  · exact absurd ‹_› (unscoped _)
  · simp_all
  · exact outcome_bind_error unread _

theorem outcome_get_scalar (h : v.IsScalar) (w : World) (name : String) (fallback : Value) :
    outcome (Config.Section.get (.asked v) name fallback) w =
      (.error (.noAttribute (World.typeInMessages {} v) "get"), w) := by
  cases h <;>
    exact outcome_get_asked (by simp) rfl (by simp [World.baseCell?, World.base]) rfl rfl _ _

theorem typeInMessages_marked (h : v.IsScalar) (tag : Nat) :
    World.typeInMessages {} (v.marked tag) = World.typeInMessages {} v := by
  cases h <;> rfl

/-- What was made of anything but a table has no entries to be asked for. -/
theorem outcome_get_made {t : Tree String Value} (proper : t.Proper Value.IsScalar)
    (single : ∀ entries, t ≠ .table entries) (stands : w.StandsFor t v) (name : String)
    (fallback : Value) :
    outcome (Config.Section.get (.asked v) name fallback) w =
      (.error (.noAttribute (typeName t) "get"), w) := by
  cases t with
  | leaf a =>
    have scalar : a.IsScalar := proper
    obtain ⟨tag, rfl | rfl⟩ := stands
    · exact outcome_get_scalar scalar w name fallback
    · rw [outcome_get_scalar (scalar.marked tag), typeInMessages_marked scalar]
      rfl
  | list items =>
    obtain ⟨i, vs, rfl, there⟩ := stands
    have base : w.baseCell? (.ref i) = some (.list vs) := by
      simp [World.baseCell?, World.base_ref, there, Cell.base?]
    have cls : w.classOf (.ref i) = .standard .list := by simp only [World.classOf, there]
    have unmapped : w.mapping? (.ref i) = none := by simp only [World.mapping?, base]
    have bare : (w.ownAttributes (.ref i)).get? "get" = none := by
      simp only [World.ownAttributes, there]
      rfl
    rw [outcome_get_asked (by simp) unmapped (by simp [base]) (by rw [cls]; rfl) bare]
    simp only [World.typeInMessages, cls]
    rfl
  | table entries => exact absurd rfl (single entries)

/-! ## Sections -/

def Config.loggingDefaults : Table String (Tree String Value) :=
  [("level", .leaf (.text "info")), ("format", .leaf (.text "json")), ("file", .leaf (.text ""))]

def Config.renderDefaults : Table String (Tree String Value) :=
  [("strict_extensions", .leaf (.bool true))]

/-- The settings that all others are laid over, with texts as keys. -/
def Config.defaults : Table String (Tree String Value) :=
  [("logging", .table loggingDefaults), ("render", .table renderDefaults)]

theorem generalKeys_defaults : Settings.generalKeys Config.defaults = Config.defaultSettings := rfl

theorem key_text_faithful (a b : String) : (Key.text a == Key.text b) = (a == b) := by
  change ((Value.text a : Value) == .text b) = _
  by_cases same : a = b
  · subst same
    simp
  · have other : Value.text a ≠ .text b := fun h => same (Value.text.inj h)
    rw [beq_eq_false_iff_ne.mpr other, beq_eq_false_iff_ne.mpr same]

/-- The settings are laid over the defaults before or after their keys are generalized. -/
theorem mergeEntries_defaultSettings (settings : Table String (Tree String Value)) :
    Tree.mergeEntries Config.defaultSettings (Settings.generalKeys settings) =
      Settings.generalKeys (Tree.mergeEntries Config.defaults settings) := by
  rw [← generalKeys_defaults, generalKeys, generalKeys, generalKeys,
    Tree.mapKeysEntries_mergeEntries key_text_faithful]

theorem get?_generalKeys (settings : Table String (Tree String Value)) (name : String) :
    Table.get? (Settings.generalKeys settings) (.text name) =
      (Table.get? settings name).map (Tree.mapKeys Key.text) :=
  Tree.get?_mapKeysEntries key_text_faithful settings name

section

variable {entries : Table String (Tree String Value)} {name : String} {t : Tree String Value}

/-- A setting of a table is made into a new value. -/
theorem made_get (found : Table.get? entries name = some t) (proper : t.Proper Value.IsScalar)
    (fallback : Value) (w : World) : ∃ v w',
    outcome (Config.Section.get (.table (Settings.generalKeys entries)) name fallback) w = (.ok v, w') ∧
      w'.StandsFor t v ∧ outcome (textOf v) w' = (t.text, w') := by
  obtain ⟨v, w', made, stands, displays⟩ := made_toValue t proper w
  refine ⟨v, w', ?_, stands, outcome_textOf_made proper stands displays (.refl w')⟩
  have given : Table.get? (Settings.generalKeys entries) (.text name) = some (t.mapKeys Key.text) := by
    rw [get?_generalKeys, found]
    rfl
  simp only [Config.Section.get, given]
  exact made

theorem nameOr_text (ofName? : String → Option α) (default_ : α)
    (unnamed : ∀ s, Nameless s → ofName? (Text.lower s) = none) (proper : t.Proper Value.IsScalar)
    {s : String} (written : t.text = .ok s) :
    nameOr ofName? default_ (some t) = (ofName? (Text.lower s)).getD default_ := by
  by_cases named : ∃ s, t = .leaf (.text s)
  · obtain ⟨s', rfl⟩ := named
    obtain rfl : s' = s := Except.ok.inj written
    rfl
  · have other : ∀ s, t ≠ .leaf (.text s) := fun s h => named ⟨s, h⟩
    have nameless := nameless_text proper other written
    rw [unnamed s nameless, nameOr]
    · rfl
    · rintro s' h
      exact other s' (Option.some.inj h)

/-- A setting names what its text names, or has the default: only a text names anything, and settings
without a text are as good as none. -/
theorem outcome_named (ofName? : String → Option α) (default_ : α) (fallback : String)
    (unnamed : ∀ s, Nameless s → ofName? (Text.lower s) = none)
    (found : Table.get? entries name = some t) (proper : t.Proper Value.IsScalar) (w : World) :
    ∃ w', outcome (Config.Section.named (.table (Settings.generalKeys entries)) name fallback ofName?
      default_) w = (.ok (nameOr ofName? default_ (some t)), w') := by
  obtain ⟨v, w', got, stands, text⟩ := made_get found proper (.text fallback) w
  refine ⟨w', ?_⟩
  rw [Config.Section.named, outcome_bind_ok got, outcome_bind, outcome_attempt, text]
  dsimp only
  cases written : t.text with
  | ok s => rw [nameOr_text ofName? default_ unnamed proper written]; rfl
  | error f =>
    obtain rfl := text_error proper written
    have silent : nameOr ofName? default_ (some t) = default_ := by
      rw [nameOr]
      rintro s h
      rw [Option.some.inj h] at written
      cases written
    rw [silent]
    rfl

theorem outcome_strictOf (found : Table.get? entries "strict_extensions" = some t)
    (proper : t.Proper Value.IsScalar) (w : World) :
    ∃ w', outcome (Config.strictOf (.table (Settings.generalKeys entries))) w =
      (.ok (truthOr true (some t)), w') := by
  obtain ⟨v, w', got, stands, -⟩ := made_get found proper (.bool true) w
  refine ⟨w', ?_⟩
  rw [Config.strictOf, outcome_bind_ok got]
  cases t with
  | leaf a =>
    have scalar : a.IsScalar := proper
    obtain ⟨tag, rfl | rfl⟩ := stands <;> cases scalar <;> rfl
  | list items =>
    obtain ⟨i, vs, rfl, -⟩ := stands
    rfl
  | table entries =>
    obtain ⟨i, es, rfl, -⟩ := stands
    rfl

/-- The settings of a section for logging, if it is a table with all of them. -/
theorem outcome_loggingOf {level format file : Tree String Value}
    (hlevel : Table.get? entries "level" = some level)
    (hformat : Table.get? entries "format" = some format)
    (hfile : Table.get? entries "file" = some file) (proper : Tree.ProperTable Value.IsScalar entries)
    (w : World) : ∃ w', outcome (Config.loggingOf (.table (Settings.generalKeys entries))) w =
      ((textOr "" (some file)).map fun file => {
        level := nameOr LogLevel.ofName? .info (some level)
        format := nameOr LogFormat.ofName? .json (some format)
        file := file }, w') := by
  obtain ⟨w₁, named⟩ := outcome_named LogLevel.ofName? .info "info" (fun _ h => h.1) hlevel
    (proper.get? hlevel) w
  obtain ⟨w₂, formatted⟩ := outcome_named LogFormat.ofName? .json "json" (fun _ h => h.2) hformat
    (proper.get? hformat) w₁
  obtain ⟨v, w₃, got, -, text⟩ := made_get hfile (proper.get? hfile) (.text "") w₂
  refine ⟨w₃, ?_⟩
  rw [Config.loggingOf, outcome_bind_ok named, outcome_bind_ok formatted, outcome_bind_ok got,
    outcome_bind, text, textOr]
  cases file.text <;> rfl

end

section

variable {data section_ : Table String (Tree String Value)} {name key : String}
  {t : Tree String Value}

/-- What is at the path of a setting. -/
def Settings.setting? (data : Table String (Tree String Value)) (name key : String) :
    Option (Tree String Value) :=
  Tree.get? (.table data) [name, key]

/-- The settings of a section that is a table or is missing. -/
def Settings.sectionAt (data : Table String (Tree String Value)) (name : String) :
    Table String (Tree String Value) :=
  ((Table.get? data name).map Tree.entries).getD []

theorem setting?_eq (data : Table String (Tree String Value)) (name key : String) :
    setting? data name key = Table.get? (sectionAt data name) key := by
  rw [setting?, Tree.get?, sectionAt]
  change (Table.get? data name).bind _ = _
  cases Table.get? data name with
  | none => rfl
  | some t =>
    change (Table.get? t.entries key).bind some = Table.get? t.entries key
    cases Table.get? t.entries key <;> rfl

theorem proper_sectionAt (proper : Tree.ProperTable Value.IsScalar data) (name : String) :
    Tree.ProperTable Value.IsScalar (sectionAt data name) := by
  rw [sectionAt]
  cases found : Table.get? data name with
  | none => exact ⟨List.nodup_nil, trivial⟩
  | some t =>
    have inside := proper.get? found
    cases t with
    | table entries => exact inside
    | leaf a => exact ⟨List.nodup_nil, trivial⟩
    | list items => exact ⟨List.nodup_nil, trivial⟩

/-- What is under the name of a section, laid over the defaults. -/
theorem get?_defaults_merge (proper : Tree.ProperTable Value.IsScalar data)
    (default_ : Table.get? Config.defaults name = some (.table section_)) :
    Table.get? (Settings.generalKeys (Tree.mergeEntries Config.defaults data)) (.text name) =
      some (((Table.get? data name).elim (.table section_) (Tree.table section_).merge).mapKeys
        Key.text) := by
  rw [get?_generalKeys, Tree.get?_mergeEntries proper.1, default_]
  cases Table.get? data name <;> rfl

/-- A section that is a table, or is missing, is laid over the defaults. -/
theorem outcome_sectionOf (proper : Tree.ProperTable Value.IsScalar data)
    (default_ : Table.get? Config.defaults name = some (.table section_))
    (checked : checkSection data name = .ok ()) (w : World) :
    outcome (Config.sectionOf (Settings.generalKeys (Tree.mergeEntries Config.defaults data)) name) w =
      (.ok (.table (Settings.generalKeys (Tree.mergeEntries section_ (sectionAt data name)))), w) := by
  have there := get?_defaults_merge proper default_
  rw [checkSection] at checked
  rw [Config.sectionOf, there, sectionAt]
  cases found : Table.get? data name with
  | none => rfl
  | some t =>
    rw [found] at checked
    cases t with
    | table entries => rfl
    | leaf a => cases checked
    | list items => cases checked

/-- What fails a check stands in the place of a section and is no table. -/
theorem checkSection_error {f : Fault} (checked : checkSection data name = .error f) : ∃ t,
    Table.get? data name = some t ∧ (∀ entries, t ≠ .table entries) ∧
      f = .noAttribute (typeName t) "get" := by
  rw [checkSection] at checked
  split at checked
  · cases checked
  · cases checked
  · exact ⟨_, ‹_›, by simp_all, (Except.error.inj checked).symm⟩

/-- Anything else in the place of a section is made into a value, which has no settings. -/
theorem outcome_sectionOf_single (proper : Tree.ProperTable Value.IsScalar data)
    (default_ : Table.get? Config.defaults name = some (.table section_))
    {f : Fault} (checked : checkSection data name = .error f) (w : World) :
    ∃ v w', outcome (Config.sectionOf (Settings.generalKeys (Tree.mergeEntries Config.defaults data))
      name) w = (.ok (.asked v), w') ∧ ∀ key fallback,
        outcome (Config.Section.get (.asked v) key fallback) w' = (.error f, w') := by
  obtain ⟨t, found, single, rfl⟩ := checkSection_error checked
  have there := get?_defaults_merge proper default_
  rw [found] at there
  have inside := proper.get? found
  obtain ⟨v, w', made, stands, -⟩ := made_toValue t inside w
  refine ⟨v, w', ?_, outcome_get_made inside single stands⟩
  rw [Config.sectionOf, there]
  cases t with
  | table entries => exact absurd rfl (single entries)
  | leaf a => exact (outcome_bind_ok made _).trans rfl
  | list items => exact (outcome_bind_ok made _).trans rfl

/-- A setting of a section that is laid over its defaults. -/
theorem get?_mergeEntries_leaf {a : Value} (distinct : (Table.keys section_).Nodup)
    {base : Table String (Tree String Value)} (default_ : Table.get? base key = some (.leaf a)) :
    Table.get? (Tree.mergeEntries base section_) key =
      some ((Table.get? section_ key).getD (.leaf a)) := by
  rw [Tree.get?_mergeEntries distinct, default_]
  cases Table.get? section_ key <;> simp

/-- A default that is laid under a setting makes no difference to what the setting names. -/
theorem nameOr_getD (ofName? : String → Option α) (default_ : α) {s : String}
    (same : (ofName? (Text.lower s)).getD default_ = default_) (found : Option (Tree String Value)) :
    nameOr ofName? default_ (some (found.getD (.leaf (.text s)))) = nameOr ofName? default_ found := by
  cases found with
  | none => exact same
  | some t => rfl

theorem outcome_loggingOf_merged (proper : Tree.ProperTable Value.IsScalar data)
    (checked : checkSection data "logging" = .ok ()) (w : World) : ∃ w',
    outcome (Config.sectionOf (Settings.generalKeys (Tree.mergeEntries Config.defaults data))
      "logging" >>= Config.loggingOf) w =
      ((textOr "" (setting? data "logging" "file")).map fun file => {
        level := nameOr LogLevel.ofName? .info (setting? data "logging" "level")
        format := nameOr LogFormat.ofName? .json (setting? data "logging" "format")
        file := file }, w') := by
  have inside := proper_sectionAt proper "logging"
  have merged := Tree.proper_mergeEntries Config.loggingDefaults (sectionAt data "logging")
    ⟨by decide, .text _, .text _, .text _, trivial⟩ inside
  obtain ⟨w', made⟩ := outcome_loggingOf (get?_mergeEntries_leaf inside.1 rfl)
    (get?_mergeEntries_leaf inside.1 rfl) (get?_mergeEntries_leaf inside.1 rfl) merged w
  refine ⟨w', ?_⟩
  rw [outcome_bind_ok (outcome_sectionOf proper rfl checked w), made, setting?_eq, setting?_eq,
    setting?_eq]
  have file : ∀ found : Option (Tree String Value),
      textOr "" (some (found.getD (.leaf (.text "")))) = textOr "" found := by
    intro found
    cases found <;> rfl
  rw [nameOr_getD _ _ (by decide), nameOr_getD _ _ (by decide), file]

theorem outcome_strictOf_merged (proper : Tree.ProperTable Value.IsScalar data)
    (checked : checkSection data "render" = .ok ()) (w : World) : ∃ w',
    outcome (Config.sectionOf (Settings.generalKeys (Tree.mergeEntries Config.defaults data))
      "render" >>= Config.strictOf) w =
      (.ok (truthOr true (setting? data "render" "strict_extensions")), w') := by
  have inside := proper_sectionAt proper "render"
  have merged := Tree.proper_mergeEntries Config.renderDefaults (sectionAt data "render")
    ⟨by decide, .bool _, trivial⟩ inside
  have there : Table.get? (Tree.mergeEntries Config.renderDefaults (sectionAt data "render"))
      "strict_extensions" =
      some ((Table.get? (sectionAt data "render") "strict_extensions").getD (.leaf (.bool true))) :=
    get?_mergeEntries_leaf inside.1 rfl
  obtain ⟨w', made⟩ := outcome_strictOf there (merged.get? there) w
  refine ⟨w', ?_⟩
  rw [outcome_bind_ok (outcome_sectionOf proper rfl checked w), made, setting?_eq]
  cases Table.get? (sectionAt data "render") "strict_extensions" <;> rfl

theorem outcome_loggingOf_failed (proper : Tree.ProperTable Value.IsScalar data) {f : Fault}
    (checked : checkSection data "logging" = .error f) (w : World) : ∃ w',
    outcome (Config.sectionOf (Settings.generalKeys (Tree.mergeEntries Config.defaults data))
      "logging" >>= Config.loggingOf) w = (.error f, w') := by
  obtain ⟨v, w', found, failed⟩ := outcome_sectionOf_single proper rfl checked w
  refine ⟨w', ?_⟩
  have unnamed : outcome (Config.Section.named (.asked v) "level" "info" LogLevel.ofName? .info) w' =
      (.error f, w') := outcome_bind_error (failed _ _) _
  rw [outcome_bind_ok found, Config.loggingOf, outcome_bind_error unnamed]

theorem outcome_strictOf_failed (proper : Tree.ProperTable Value.IsScalar data) {f : Fault}
    (checked : checkSection data "render" = .error f) (w : World) : ∃ w',
    outcome (Config.sectionOf (Settings.generalKeys (Tree.mergeEntries Config.defaults data))
      "render" >>= Config.strictOf) w = (.error f, w') := by
  obtain ⟨v, w', found, failed⟩ := outcome_sectionOf_single proper rfl checked w
  refine ⟨w', ?_⟩
  rw [outcome_bind_ok found, Config.strictOf, outcome_bind_error (failed _ _)]

end

/-- Whatever layers of settings are merged, each setting of the configuration depends on what the
merged layers have at its own path, and on nothing else: a log level and a format on the name that a
text there spells in any case, the log file on what stands there as a text, strictness on the truth
value there, and all of them have their defaults where that is missing or is of another kind. But a
section fails in whose place something else than a table stands, and so does a log file with an integer
in it of more digits than are written out. -/
theorem config_of_layers {base : Table String (Tree String Value)}
    (proper : Tree.ProperTable Value.IsScalar base) {layers : List (Table String (Tree String Value))}
    (later : ∀ layer ∈ layers, Tree.ProperTable Value.IsScalar layer) (path : Option String)
    (w : World) :
    let data := layers.foldl Tree.mergeEntries base
    (outcome (Config.ofSettings (Settings.generalKeys data) path) w).1 = (do
      checkSection data "logging"
      let file ← textOr "" (setting? data "logging" "file")
      checkSection data "render"
      return {
        logging := {
          level := nameOr LogLevel.ofName? .info (setting? data "logging" "level")
          format := nameOr LogFormat.ofName? .json (setting? data "logging" "format")
          file := file }
        strictExtensions := truthOr true (setting? data "render" "strict_extensions")
        path := path }) ∧
    ∀ f, textOr "" (setting? data "logging" "file") = .error f → f = .digitLimit := by
  intro data
  have whole : Tree.ProperTable Value.IsScalar data := Tree.proper_layers proper later
  constructor
  · have steps : Config.ofSettings (Settings.generalKeys data) path =
        (Config.sectionOf (Settings.generalKeys (Tree.mergeEntries Config.defaults data)) "logging" >>=
          Config.loggingOf) >>= fun logging =>
        (Config.sectionOf (Settings.generalKeys (Tree.mergeEntries Config.defaults data)) "render" >>=
          Config.strictOf) >>= fun strict => pure ⟨logging, strict, path⟩ := by
      rw [Config.ofSettings, mergeEntries_defaultSettings]
      simp only [bind_assoc]
    rw [steps]
    cases logged : checkSection data "logging" with
    | error f =>
      obtain ⟨w₁, failed⟩ := outcome_loggingOf_failed whole logged w
      rw [outcome_bind_error failed]
      rfl
    | ok =>
      obtain ⟨w₁, logging⟩ := outcome_loggingOf_merged whole logged w
      cases written : textOr "" (setting? data "logging" "file") with
      | error f =>
        rw [written] at logging
        rw [outcome_bind_error logging]
        rfl
      | ok file =>
        rw [written] at logging
        rw [outcome_bind_ok logging]
        cases rendered : checkSection data "render" with
        | error f =>
          obtain ⟨w₂, failed⟩ := outcome_strictOf_failed whole rendered w₁
          rw [outcome_bind_error failed]
          rfl
        | ok =>
          obtain ⟨w₂, strict⟩ := outcome_strictOf_merged whole rendered w₁
          rw [outcome_bind_ok strict]
          rfl
  · intro f failed
    rw [setting?_eq] at failed
    cases found : Table.get? (sectionAt data "logging") "file" with
    | none =>
      rw [found] at failed
      cases failed
    | some t =>
      rw [found] at failed
      exact text_error ((proper_sectionAt whole "logging").get? found) failed

/-- A level in capital letters, and an unknown format in a later layer; and a number in the place of a
section. -/
theorem config_of_layers_mixed :
    (outcome (Config.ofSettings (Settings.generalKeys (List.foldl Tree.mergeEntries
        [("logging", .table [("level", .leaf (.text "DEBUG")), ("file", .leaf (.text "log"))])]
        [[("logging", .table [("format", .leaf (.text "xml"))]),
          ("render", .table [("strict_extensions", .leaf (.bool false))])]])) none) {}).1 =
      .ok ⟨⟨.debug, .json, "log"⟩, false, none⟩ ∧
    (outcome (Config.ofSettings (Settings.generalKeys (List.foldl Tree.mergeEntries
        [("logging", .leaf (.int 5))] [])) none) {}).1 = .error (.noAttribute "int" "get") := by
  have file : Tree.ProperTable Value.IsScalar
      [("logging", .table [("level", .leaf (.text "DEBUG")), ("file", .leaf (.text "log"))])] :=
    ⟨by decide, ⟨by decide, .text _, .text _, trivial⟩, trivial⟩
  have environment : Tree.ProperTable Value.IsScalar
      [("logging", .table [("format", .leaf (.text "xml"))]),
        ("render", .table [("strict_extensions", .leaf (.bool false))])] :=
    ⟨by decide, ⟨by decide, .text _, trivial⟩, ⟨by decide, .bool _, trivial⟩, trivial⟩
  have number : Tree.ProperTable Value.IsScalar [("logging", .leaf (.int 5))] :=
    ⟨by decide, .int 5, trivial⟩
  constructor
  · exact (config_of_layers file (by simpa using environment) none {}).1.trans rfl
  · exact (config_of_layers number (by simp) none {}).1.trans rfl

end TemplateEngine
