import Arbor.Cli.Parse
import Arbor.Config.Basic
import Arbor.Edit.Confirm
import Arbor.Render.Plan
import Arbor.Render.Outline
import Arbor.Tree.Imports
import Arbor.Tree.Docstring
import Arbor.Text.Json
/-!
Running the program on a disk.
-/

namespace Arbor.Cli

open Arbor.Disk Arbor.Render Arbor.Config Arbor.Edit Arbor.Pattern Arbor.Text Arbor.Outline

/-- A failure of the program, with what caused it, outermost first. -/
structure Failure where
  message : String
  causes : List String := []
  deriving Inhabited

/-- A cause in an error report: indented, and numbered when there are several. -/
def causeText (number : Option Nat) (text : String) : String :=
  let lines := text.splitOn "\n"
  let first := match number with
    | some n => spaces (5 - (toString n).length) ++ toString n ++ ": "
    | none => "    "
  let more := match number with
    | some _ => "       "
    | none => "    "
  first ++ ("\n" ++ more).intercalate lines

/-- The error report of a failure. -/
def Failure.report (f : Failure) : String :=
  "Error: " ++ f.message ++
    (match f.causes with
     | [] => ""
     | [c] => "\n\nCaused by:\n" ++ causeText none c
     | cs => "\n\nCaused by:" ++ String.join (cs.zipIdx.map fun (c, i) => "\n" ++ causeText (some i) c)) ++
    "\n"

/-- The words of a regular expression that does not compile. -/
def SyntaxError.describe : Regex.SyntaxError → String
  | .unclosed => "unclosed group"
  | .unopened => "unopened group"
  | .repetitionMissing => "repetition operator missing expression"
  | .badRepetition => "invalid repetition count range"
  | .badEscape => "unrecognized escape sequence"
  | .badClass => "unclosed character class"
  | .badGroup => "unrecognized flag"
  | .unsupported => "look-around, including look-ahead and look-behind, is not supported"
  | .unknownProperty => "Unicode property not found"
  | .invalidUtf8 => "pattern can match invalid UTF-8"
  | .unicodeNotAllowed => "Unicode not allowed here"
  | .tooLarge => "exceed the maximum number of nested parentheses/brackets (250)"
  | .automatonTooLarge => "Compiled regex exceeds size limit of 10485760 bytes."

def patternFailure : PatternError → Failure
  | .invalid p .automatonTooLarge =>
    let cause := SyntaxError.describe .automatonTooLarge
    { message := "invalid pattern '" ++ p ++ "': " ++ cause, causes := [cause] }
  | .invalid p e =>
    let cause := "regex parse error:\n    " ++ p ++ "\n    ^\nerror: " ++ SyntaxError.describe e
    { message := "invalid pattern '" ++ p ++ "': " ++ cause, causes := [cause] }
  | e => { message := e.message }

def configFailure : ConfigError → Failure
  | e@(.io _ cause) => { message := e.message, causes := [cause] }
  | e@(.invalid _ issues) => { message := e.message, causes := ["\n".intercalate (issues.map Issue.message)] }
  | e => { message := e.message }

def treeCauses : TreeError → List String
  | .io _ cause => [cause]
  | .invalidGlob _ cause => [cause]
  | _ => []

def treeFailure (e : TreeError) : Failure := { message := e.message, causes := treeCauses e }

def buildFailure (path : String) (e : TreeError) : Failure :=
  { message := "failed to build tree at " ++ path, causes := e.message :: treeCauses e }

def editFailure : EditError → Failure
  | e@(.io _ cause) => { message := e.message, causes := [cause] }
  | e => { message := e.message }

structure Env where
  cwd : List String
  ansi : Bool
  styled : Bool := false

/-- Whether the environment forces colours: `CLICOLOR_FORCE` set to anything but `0`. Output
that is not a terminal is otherwise plain. -/
def colorsOn (vars : List (String × String)) : Bool :=
  match (vars.reverse.find? (·.1 == "CLICOLOR_FORCE")).map (·.2) with
  | some v => v != "0"
  | none => false

/-- Whether the environment styles help and command-line errors: `NO_COLOR` set to anything
but the empty text refuses it, else `CLICOLOR_FORCE` set to anything but `0` forces it. Output
that is not a terminal is otherwise plain. -/
def helpColorsOn (vars : List (String × String)) : Bool :=
  let forced := colorsOn vars
  match (vars.reverse.find? (·.1 == "NO_COLOR")).map (·.2) with
  | some v => v.isEmpty && forced
  | none => forced

structure Console where
  out : String := ""
  err : String := ""
  disk : Disk

/-- A step of a run: it writes to the console and may fail. -/
abbrev Prog := ExceptT Failure (StateM Console)

def say (s : String) : Prog Unit := modify fun c => { c with out := c.out ++ s }

def warn (s : String) : Prog Unit := modify fun c => { c with err := c.err ++ s }

def orFail {ε α : Type} (r : Except ε α) (f : ε → Failure) : Prog α :=
  match r with
  | .ok a => pure a
  | .error e => throw (f e)

structure Workspace where
  settings : Settings
  tree : Tree
  scope : NodeId
  style : Style

def openWorkspace (env : Env) (config : Option String) (t : TreeArgs) : Prog Workspace := do
  let c ← get
  let settings ← orFail (loadFor c.disk env.cwd config t.path) configFailure
  let builder := t.ignore.foldl Builder.addIgnore settings.builder
  let tree ← orFail (builder.build c.disk env.cwd t.path) (buildFailure t.path)
  for f in tree.failures.toList do
    warn (yellow env.ansi "skipped" ++ " " ++ f.path ++ ": " ++ f.error.message ++ "\n")
  let scope ← match t.within with
    | some e => orFail (tree.resolve e) treeFailure
    | none => pure tree.root
  let style : Style := { scheme := if t.noColor then .noColor else settings.display.scheme,
                         lineNumbers := settings.display.lineNumbers, ansi := env.ansi }
  pure ⟨settings, tree, scope, style⟩

/-- The pattern the arguments describe. -/
def PatternArgs.spec (p : PatternArgs) : Spec :=
  { pattern := p.pattern, regex := p.regex, wholeWord := p.wholeWord,
    caseSensitive := !p.ignoreCase }

/-- A match as JSON. -/
def matchJson (m : LineMatch) : JsonValue :=
  .obj [("owner", .str m.owner), ("file", .str m.file), ("line", .num m.line),
        ("text", .str m.text), ("spans", .arr (m.spans.map fun (a, b) => .arr [.num a, .num b]))]

/-- An import as JSON. -/
def importJson (i : Import) : JsonValue :=
  let opt : Option String → JsonValue := fun
    | some s => .str s
    | none => .null
  .obj [("module", .str i.module), ("from", opt i.source), ("name", .str i.name),
        ("alias", opt i.asName), ("type_checking", .bool i.typeChecking), ("line", .num i.line)]

def runCount : List String → Nat
  | [] => 0
  | x :: xs => (xs.foldl (fun (acc : String × Nat) y => if y == acc.1 then acc else (y, acc.2 + 1)) (x, 1)).2

def runFind (env : Env) (config : Option String) (p : PatternArgs) (t : TreeArgs) (json : Bool) :
    Prog Unit := do
  let m ← orFail p.spec.compile patternFailure
  let ws ← openWorkspace env config t
  let ms := ws.tree.findAll ws.scope m
  if json then say ((JsonValue.arr (ms.map matchJson)).pretty 0 ++ "\n")
  else
    say (String.join (ms.map fun x => renderMatch ws.style x ++ "\n"))
    warn (green env.ansi (toString ms.length) ++ " matches in " ++
      toString (runCount (ms.map (·.file))) ++ " files\n")

/-- The diff of one planned file: plain unified in the plain scheme, else every line of both
texts marked and painted. -/
def diffText (scheme : Scheme) (ansi : Bool) (f : FilePlan) : String :=
  match scheme with
  | .noColor => f.diff
  | .dark =>
    "\n" ++ dimmed ansi ("--- " ++ f.path ++ " (original)") ++ "\n" ++
      dimmed ansi ("+++ " ++ f.path ++ " (planned)") ++ "\n" ++
      String.join ((Diff.changes f.original f.proposed).map fun
        | .removed l => red ansi ("-" ++ l)
        | .added l => green ansi ("+" ++ l)
        | .kept l => " " ++ l)

def runEdit (env : Env) (config : Option String) (p : PatternArgs) (replacement : String)
    (t : TreeArgs) (apply diff : Bool) : Prog Unit := do
  let m ← orFail p.spec.compile patternFailure
  let ws ← openWorkspace env config t
  let s ← orFail (Session.plan ws.tree ws.scope m replacement) editFailure
  let s := s.withMode ws.settings.writeMode
  if s.isEmpty then
    say (yellow env.ansi "No matches" ++ "\n")
  else
    if diff then say (String.join (s.files.map (diffText ws.style.scheme env.ansi)))
    else say (renderPlan ws.style s)
    if !apply then
      say ("\n" ++ cyan env.ansi ("[DRY RUN] " ++ toString s.matchCount ++ " matches in " ++
        toString s.files.length ++ " files; pass --apply to write") ++ "\n")
    else
      let c ← get
      let (r, _, _, d) ← orFail (s.confirm ws.tree c.disk env.cwd) editFailure
      modify fun c => { c with disk := d }
      for path in r.successful do
        say (green env.ansi "✓" ++ " " ++ path ++ "\n")
      for (path, e) in r.failed do
        warn (red env.ansi "✗" ++ " " ++ path ++ ": " ++ e.message ++ "\n")
      say ("\nSummary:\n  " ++ green env.ansi (toString r.successful.length) ++ " written\n")
      if !r.isClean then
        say ("  " ++ red env.ansi (toString r.failed.length) ++ " failed\n")
        throw { message := toString r.failed.length ++ " file(s) could not be written" }

/-- Print one node: its kind, name and place, its docstring, and its text. -/
def runShow (env : Env) (config : Option String) (node : String) (t : TreeArgs) : Prog Unit := do
  let ws ← openWorkspace env config t
  let id ← orFail (ws.tree.resolveFrom ws.scope node) treeFailure
  let location := match ws.tree.span? id with
    | some s => ws.tree.path id ++ ":" ++ s.render
    | none => ws.tree.path id
  say ((ws.tree.kind id).label ++ " " ++ bold env.ansi (ws.tree.absoluteName id) ++ "  " ++
    dimmed env.ansi location ++ "\n")
  match ws.tree.docstring? id with
  | some doc => say (italic env.ansi doc ++ "\n")
  | none => pure ()
  say "\n"
  match ws.tree.text? id with
  | some text => say (text ++ if text.endsWith "\n" then "" else "\n")
  | none => pure ()

def fieldOf : String → ImportField
  | "module" => .module
  | "from" => .source
  | "name" => .name
  | "alias" => .asName
  | _ => .typeChecking

def runImports (env : Env) (config : Option String) (groupBy : List String) (t : TreeArgs)
    (json : Bool) : Prog Unit := do
  let ws ← openWorkspace env config t
  let imports := ws.tree.imports ws.scope
  if json then say ((JsonValue.arr (imports.map importJson)).pretty 0 ++ "\n")
  else
    let plain := ws.style.scheme == .noColor
    let fields := groupBy.map fieldOf
    for (key, members) in groupImports imports fields do
      let indent := if fields.isEmpty then "" else "  "
      if !fields.isEmpty then
        let label := " / ".intercalate (key.map (·.getD "-"))
        say ((if plain then label else bold env.ansi label) ++ "\n")
      for n in members do
        match imports[n]? with
        | some i =>
          let guard := if i.typeChecking then
            (if plain then " [type checking]" else dimmed env.ansi " [type checking]") else ""
          say (indent ++ i.module ++ ":" ++ toString i.line ++ ": " ++ i.display ++ guard ++ "\n")
        | none => pure ()

def runAction (env : Env) (inv : Invocation) : Prog Unit :=
  match inv.action with
  | .find p t json => runFind env inv.config p t json
  | .edit p r t apply diff => runEdit env inv.config p r t apply diff
  | .outline t => do
    let ws ← openWorkspace env inv.config t
    say (outline ws.tree ws.scope ws.style)
  | .imports fields t json => runImports env inv.config fields t json
  | .show node t => runShow env inv.config node t

structure Outcome where
  status : Nat
  stdout : String
  stderr : String
  disk : Disk

/-- Run the program with arguments, without its own name, on a disk. -/
def run (env : Env) (args : List String) (d : Disk) : Outcome :=
  match readArgs args with
  | .print text => ⟨0, text.render env.styled, "", d⟩
  | .refuse text => ⟨2, "", text.render env.styled, d⟩
  | .run inv =>
    let (r, c) := (runAction env inv).run.run { disk := d }
    match r with
    | .ok () => ⟨0, c.out, c.err, c.disk⟩
    | .error f => ⟨1, c.out, c.err ++ f.report, c.disk⟩

end Arbor.Cli
