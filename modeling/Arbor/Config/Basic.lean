import Arbor.Toml.Document
import Arbor.Glob.Basic
import Arbor.Tree.Build
import Arbor.Render.Style
import Arbor.Edit.Session
/-!
Settings: what a settings file may say, its defaults, and the checks it must pass.
-/

namespace Arbor.Config

open Arbor.Toml Arbor.Render Arbor.Edit

/-- The settings of the engine. -/
structure Settings where
  encoding : String := "utf-8"
  extensions : List String := ["py"]
  ignore : List String := defaultIgnore
  includes : List String := []
  markers : List String := Outline.defaultPropertyMarkers
  display : Style := {}
  overwrite : Bool := true
  deriving DecidableEq, Repr, Inhabited

/-- The name of a colour scheme in a settings file. -/
def schemeName : Scheme → String
  | .dark => "dark"
  | .noColor => "no-color"

def asString : Value → Option String
  | .string s => some s
  | _ => none

def asBool : Value → Option Bool
  | .boolean b => some b
  | _ => none

def asStrings : Value → Option (List String)
  | .array items => items.mapM asString
  | _ => none

def schemeNamed? : String → Option Scheme
  | "dark" => some .dark
  | "no-color" => some .noColor
  | _ => none

/-- A colour scheme: its name, or a table whose only key is the name, set to an empty table
or an empty array. -/
def asScheme : Value → Option Scheme
  | .string s => schemeNamed? s
  | .table [(name, .table [])] | .table [(name, .array [])] => schemeNamed? name
  | _ => none

/-- The fields of a table setting: the entries of a table, or the items of an array taken as
the fields in order (fewer items leave the rest at their defaults, more are refused). -/
def fieldsOf (names : List String) : Value → Option (List (String × Value))
  | .table entries => some entries
  | .array items => if items.length ≤ names.length then some (names.zip items) else none
  | _ => none

def decodeDisplay (v : Value) : Option Style := do
  let fields ← fieldsOf ["color_scheme", "line_numbers"] v
  fields.foldlM (fun (s : Style) (k, v) =>
    match k with
    | "color_scheme" => do pure { s with scheme := ← asScheme v }
    | "line_numbers" => do pure { s with lineNumbers := ← asBool v }
    | _ => none) {}

def decodeEdit (v : Value) : Option Bool := do
  let fields ← fieldsOf ["overwrite"] v
  fields.foldlM (fun (_ : Bool) (k, v) =>
    match k with
    | "overwrite" => asBool v
    | _ => none) true

def setKey (s : Settings) : String × Value → Option Settings
  | ("encoding", v) => do pure { s with encoding := ← asString v }
  | ("extensions", v) => do pure { s with extensions := ← asStrings v }
  | ("ignore", v) => do pure { s with ignore := ← asStrings v }
  | ("include", v) => do pure { s with includes := ← asStrings v }
  | ("property_markers", v) => do pure { s with markers := ← asStrings v }
  | ("display", v) => do pure { s with display := ← decodeDisplay v }
  | ("edit", v) => do pure { s with overwrite := ← decodeEdit v }
  | _ => none

/-- The settings a document gives, or nothing when it has a key the settings lack or a value
of the wrong kind. -/
def decode : Value → Option Settings
  | .table entries => entries.foldlM setKey {}
  | _ => none

/-- One failed check. -/
inductive Issue where
  | unknownEncoding (label : String)
  | emptyList (field : String)
  | invalidValue (field value message : String)
  deriving DecidableEq, Repr

/-- The sentence shown for a failed check. -/
def Issue.message : Issue → String
  | .unknownEncoding label => s!"unknown encoding '{label}'"
  | .emptyList field => s!"'{field}' must not be empty"
  | .invalidValue field value message => s!"invalid entry '{value}' in '{field}': {message}"

def globIssues (field : String) (patterns : List String) : List Issue :=
  patterns.filterMap fun p =>
    match Glob.tokens p with
    | .ok _ => none
    | .error e => some (.invalidValue field p e.message)

/-- Every failed check of the settings, in order. -/
def Settings.issues (s : Settings) : List Issue :=
  (if (Encoding.ofLabel? s.encoding).isSome then [] else [.unknownEncoding s.encoding]) ++
  (if s.extensions.isEmpty then [.emptyList "extensions"] else []) ++
  (s.extensions.filterMap fun e =>
    if (Text.trim e).isEmpty || e.startsWith "." then
      some (.invalidValue "extensions" e "expected an extension without the leading dot")
    else none) ++
  globIssues "ignore" s.ignore ++
  globIssues "include" s.includes ++
  (s.markers.filterMap fun m =>
    if (Text.trim m).isEmpty || m.startsWith "@" then
      some (.invalidValue "property_markers" m "expected a decorator name without '@'")
    else none)

inductive Source where
  | inline
  | file (path : String)
  deriving DecidableEq, Repr

/-- The source as messages name it. -/
def Source.describe : Source → String
  | .inline => "inline srctree config"
  | .file path => path

def fileName : String := "srctree.toml"

/-- Why settings could not be loaded. -/
inductive ConfigError where
  | io (path : String) (cause : String)
  | malformed (source : Source)
  | invalid (source : Source) (issues : List Issue)
  deriving DecidableEq, Repr

/-- The sentence shown for a failed load. -/
def ConfigError.message : ConfigError → String
  | .io path cause => s!"cannot read {fileName} at {path}: {cause}"
  | .malformed source => s!"{source.describe} is not a valid {fileName}"
  | .invalid source issues =>
    let noun := if issues.length == 1 then "setting" else "settings"
    s!"{source.describe} has {issues.length} unusable {noun}:\n" ++
      String.join (issues.map fun i => "  - " ++ i.message ++ "\n")

/-- The name of the failure's kind. -/
def ConfigError.kind : ConfigError → String
  | .io .. => "Io"
  | .malformed .. => "Toml"
  | .invalid .. => "Validation"

def issuesText (issues : List Issue) : String := "\n".intercalate (issues.map Issue.message)

/-- The error a failed load wraps: the read error, the document's own error, or the failed
checks. -/
inductive Cause where
  | io (message : String)
  | document
  | validation (issues : List Issue)
  deriving DecidableEq, Repr

/-- The error a failed load wraps, as its source. -/
def ConfigError.cause? : ConfigError → Option Cause
  | .io _ message => some (.io message)
  | .malformed _ => some .document
  | .invalid _ issues => some (.validation issues)

/-- Every failed load keeps the error it wraps. -/
theorem ConfigError.cause?_isSome (e : ConfigError) : e.cause?.isSome := by
  cases e <;> rfl

/-- The file a failed load concerns, if the settings came from a file. -/
def ConfigError.path? : ConfigError → Option String
  | .io path _ => some path
  | .malformed (.file path) | .invalid (.file path) _ => some path
  | _ => none

/-- Read and check settings from a text. -/
def load (source : Source) (text : String) : Except ConfigError Settings :=
  match (readDocument text).bind decode with
  | none => .error (.malformed source)
  | some s => if s.issues.isEmpty then .ok s else .error (.invalid source s.issues)

def Settings.textEncoding (s : Settings) : Encoding := (Encoding.ofLabel? s.encoding).getD .utf8

def Settings.writeMode (s : Settings) : WriteMode := if s.overwrite then .overwrite else .copy

def Settings.loader (s : Settings) : Loader := { markers := s.markers, encoding := s.textEncoding }

/-- How trees are built under the settings. -/
def Settings.builder (s : Settings) : Builder :=
  { loader := s.loader, extensions := s.extensions, ignore := s.ignore, includes := s.includes }

/-- A tree builder under the settings, refused when they name no encoding. -/
def Settings.treeBuilder (s : Settings) : Except EncodingError Builder := do
  let encoding ← Encoding.forLabel s.encoding
  pure { loader := { markers := s.markers, encoding }, extensions := s.extensions,
         ignore := s.ignore, includes := s.includes }

/-- Settings that pass their checks name an encoding, so they give the tree builder they
describe. -/
theorem Settings.treeBuilder_of_load {source : Source} {text : String} {s : Settings}
    (h : load source text = .ok s) : s.treeBuilder = .ok s.builder := by
  have hissues : s.issues = [] := by
    unfold load at h
    split at h
    · cases h
    · split at h
      · rename_i hempty
        cases h
        exact List.isEmpty_iff.mp hempty
      · cases h
  -- an unknown label would be the first failed check
  obtain ⟨encoding, hlabel⟩ : ∃ encoding, Encoding.ofLabel? s.encoding = some encoding := by
    cases hl : Encoding.ofLabel? s.encoding with
    | none => simp [Settings.issues, hl] at hissues
    | some encoding => exact ⟨encoding, rfl⟩
  simp only [treeBuilder, builder, loader, textEncoding, Encoding.forLabel, hlabel, Option.getD_some]
  rfl

/-- Read and check the settings file at a path. -/
def loadFile (d : Disk) (cwd : List String) (path : String) : Except ConfigError Settings :=
  match d.readText cwd path with
  | .error e => .error (.io path e.message)
  | .ok text => load (.file path) text

/-- The nearest settings file in the directory of `start`, or of one of its ancestors; a
file's search starts at its directory. -/
def discover (d : Disk) (cwd : List String) (start : String) : Option String :=
  let dir := if d.isFile cwd start then Disk.Path.parent? start else some start
  dir.bind fun dir =>
    ((Disk.Path.ancestors dir).map (Disk.Path.join · fileName)).find? (d.isFile cwd ·)

/-- The settings of the file given, else of the file discovered from `start`, else the
defaults. -/
def loadFor (d : Disk) (cwd : List String) (explicit : Option String) (start : String) :
    Except ConfigError Settings :=
  match explicit <|> discover d cwd start with
  | some path => loadFile d cwd path
  | none => .ok {}

end Arbor.Config
