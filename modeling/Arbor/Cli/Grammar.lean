import Arbor.Text.Similarity
/-!
The grammar of the command line, and the help and usage texts it gives.
-/

namespace Arbor.Cli

inductive Takes where
  | flag
  | value (name : String)
  | values (name : String)
  deriving DecidableEq, Repr, Inhabited

/-- An option. -/
structure Opt where
  id : String
  long : String
  short : Option Char := none
  takes : Takes := .flag
  help : String
  order : Nat
  choices : List String := []
  nonEmpty : Bool := false
  deriving Inhabited

structure Positional where
  id : String
  name : String
  help : String
  required : Bool
  default : Option String := none
  nonEmpty : Bool := false
  deriving Inhabited

/-- A subcommand. -/
structure Command where
  name : String
  about : String
  positionals : List Positional := []
  options : List Opt := []
  deriving Inhabited

def programName : String := "srctree"

def programVersion : String := "0.1.0"

def programAbout : String := "Structural search and edit for Python-like source trees"

def helpOpt : Opt :=
  { id := "help", long := "help", short := some 'h', help := "Print help", order := 999 }

def versionOpt : Opt :=
  { id := "version", long := "version", short := some 'V', help := "Print version", order := 999 }

def globalOpts : List Opt :=
  [{ id := "config", long := "config", takes := .value "FILE", nonEmpty := true, order := 6,
     help := "Config file (otherwise srctree.toml is looked up from the target path)" },
   { id := "verbose", long := "verbose", short := some 'v', order := 7,
     help := "Log engine steps to stderr" }]

def patternOpts (start : Nat) : List Opt :=
  [{ id := "regex", long := "regex", order := start,
     help := "Treat the pattern as a regular expression" },
   { id := "whole_word", long := "whole-word", short := some 'w', order := start + 1,
     help := "Only match whole words" },
   { id := "ignore_case", long := "ignore-case", short := some 'i', order := start + 2,
     help := "Match case-insensitively" }]

def treeOpts (start : Nat) : List Opt :=
  [{ id := "ignore", long := "ignore", takes := .values "GLOB", order := start,
     help := "Extra glob of paths to skip (repeatable)" },
   { id := "within", long := "within", takes := .value "NODE", order := start + 1,
     help := "Restrict to the subtree at this node path" },
   { id := "no_color", long := "no-color", order := start + 2, help := "Disable colored output" }]

def editOpts (start : Nat) : List Opt :=
  [{ id := "apply", long := "apply", order := start,
     help := "Write the changes (otherwise only show what would change)" },
   { id := "diff", long := "diff", short := some 'd', order := start + 1,
     help := "Show unified diff of changes" }]

def patternArg : Positional :=
  { id := "pattern", name := "PATTERN", required := true,
    help := "Pattern to search for (literal unless --regex)" }

def pathArg : Positional :=
  { id := "path", name := "PATH", required := false, default := some ".", nonEmpty := true,
    help := "File or directory to operate on" }

def groupFields : List String := ["module", "from", "name", "alias", "type-checking"]

/-- The subcommands, in order. -/
def commands : List Command :=
  [{ name := "find", about := "List every line matching a pattern, with its owning node",
     positionals := [patternArg, pathArg],
     options := patternOpts 0 ++ treeOpts 3 ++
       [{ id := "json", long := "json", order := 6, help := "Emit matches as JSON" }] },
   { name := "replace", about := "Replace matches of a pattern",
     positionals := [patternArg,
       { id := "replacement", name := "REPLACEMENT", required := true,
         help := "Replacement text; \x60$1\x60 / \x60$\x7bname\x7d\x60 refer to capture groups with --regex" },
       pathArg],
     options := patternOpts 0 ++ treeOpts 3 ++ editOpts 6 },
   { name := "delete", about := "Delete matches of a pattern",
     positionals := [patternArg, pathArg],
     options := patternOpts 0 ++ treeOpts 3 ++ editOpts 6 },
   { name := "outline", about := "Print the class and function structure of a tree",
     positionals := [pathArg], options := treeOpts 0 },
   { name := "imports", about := "List import statements, optionally grouped",
     positionals := [pathArg],
     options := [{ id := "group_by", long := "group-by", takes := .values "FIELD", order := 0,
                   choices := groupFields,
                   help := "Group by these fields, outermost first (repeatable)" }] ++
       treeOpts 1 ++ [{ id := "json", long := "json", order := 4, help := "Emit imports as JSON" }] },
   { name := "show", about := "Print one node's source, located by dotted path",
     positionals := [{ id := "node", name := "NODE", required := true,
                       help := "Node path such as \x60pkg.module.Class.method\x60" }, pathArg],
     options := treeOpts 0 }]

def helpAbout : String := "Print this message or the help of the given subcommand(s)"

def commandNames : List String := commands.map (·.name) ++ ["help"]

def Command.allOptions (c : Command) : List Opt := c.options ++ globalOpts ++ [helpOpt]

def topOptions : List Opt := globalOpts ++ [helpOpt, versionOpt]

def Opt.sortKey (o : Opt) : String :=
  match o.short with
  | some c => c.toLower.toString ++ (if c.isLower then "0" else "1")
  | none => o.long

def sortOptions (opts : List Opt) : List Opt :=
  opts.mergeSort fun a b => a.order < b.order || (a.order == b.order && a.sortKey ≤ b.sortKey)

/-- How an option names its value, after its long name. -/
def Opt.valueSuffix (o : Opt) : String :=
  match o.takes with
  | .flag => ""
  | .value n | .values n => " <" ++ n ++ ">"

/-- An option as messages name it: its long name and its value. -/
def Opt.spec (o : Opt) : String := "--" ++ o.long ++ o.valueSuffix

/-- A positional argument as help names it. -/
def Positional.spec (p : Positional) (required : Bool) : String :=
  if required then "<" ++ p.name ++ ">" else "[" ++ p.name ++ "]"

def spaces (n : Nat) : String := String.ofList (List.replicate n ' ')

def Opt.fullHelp (o : Opt) : String :=
  if o.choices.isEmpty then o.help
  else o.help ++ " [possible values: " ++ ", ".intercalate o.choices ++ "]"

def Positional.fullHelp (p : Positional) : String :=
  match p.default with
  | some d => p.help ++ " [default: " ++ d ++ "]"
  | none => p.help

/-- How a piece of help or error text is shown on a terminal that takes colours: names the
user can type are bold, headings bold and underlined, the word `error:` bold red, what is
offered green and what was refused yellow. -/
inductive Tone where
  | plain
  | literal
  | heading
  | error
  | valid
  | invalid
  deriving DecidableEq, Repr, Inhabited

/-- The escape sequence that starts a tone. -/
def Tone.opening : Tone → String
  | .plain => ""
  | .literal => "\x1b[1m"
  | .heading => "\x1b[1m\x1b[4m"
  | .error => "\x1b[1m\x1b[31m"
  | .valid => "\x1b[32m"
  | .invalid => "\x1b[33m"

abbrev Rich := List (Tone × String)

def plain (s : String) : Rich := [(.plain, s)]

def toned (t : Tone) (s : String) : Rich := [(t, s)]

/-- The text of rich text, with escape sequences around every toned piece when `styled`. -/
def Rich.render (styled : Bool) (r : Rich) : String :=
  String.join (r.map fun (t, s) =>
    if styled && t != .plain then t.opening ++ s ++ "\x1b[0m" else s)

def optionLines (opts : List Opt) : List Rich :=
  let width := opts.foldl (fun w o => max w o.spec.length) 2
  (sortOptions opts).map fun o =>
    let lead := match o.short with
      | some c => plain "  " ++ toned .literal ("-" ++ c.toString) ++ plain ", "
      | none => plain "      "
    lead ++ toned .literal ("--" ++ o.long) ++
      plain (o.valueSuffix ++ spaces (width - o.spec.length + 2) ++ o.fullHelp)

def positionalLines (ps : List Positional) : List String :=
  let width := ps.foldl (fun w p => max w (p.spec p.required).length) 2
  ps.map fun p =>
    "  " ++ p.spec p.required ++ spaces (width - (p.spec p.required).length + 2) ++ p.fullHelp

/-- The usage line of a command for help: its options as `[OPTIONS]` and every positional. -/
def Command.helpUsage (c : Command) : Rich :=
  toned .literal (programName ++ " " ++ c.name) ++ plain (" [OPTIONS]" ++
    String.join (c.positionals.map fun p => " " ++ p.spec p.required))

def topUsage : Rich := toned .literal programName ++ plain " [OPTIONS] <COMMAND>"

/-- The usage line of a command after its arguments `used` were given: the options given,
then every positional, given or required ones in angle brackets. -/
def Command.smartUsage (c : Command) (used : List String) : Rich :=
  let opts := used.filterMap fun id => c.allOptions.find? (·.id == id)
  toned .literal (programName ++ " " ++ c.name) ++
    (opts.flatMap fun o => plain " " ++ toned .literal ("--" ++ o.long) ++ plain o.valueSuffix) ++
    plain (String.join (c.positionals.map fun p => " " ++ p.spec (p.required || used.contains p.id)))

def headingLine (name : String) : Rich := toned .heading (name ++ ":") ++ plain "\n"

def richLines (lines : List Rich) : Rich := lines.flatMap (· ++ plain "\n")

/-- The help text of a subcommand. -/
def Command.helpText (c : Command) : Rich :=
  plain (c.about ++ "\n\n") ++ toned .heading "Usage:" ++ plain " " ++ c.helpUsage ++ plain "\n\n" ++
    (if c.positionals.isEmpty then []
     else headingLine "Arguments" ++ plain (String.join ((positionalLines c.positionals).map (· ++ "\n"))) ++
       plain "\n") ++
    headingLine "Options" ++ richLines (optionLines c.allOptions)

/-- The help text of the program. -/
def topHelpText : Rich :=
  let names := commandNames
  let width := names.foldl (fun w n => max w n.length) 2
  let abouts := commands.map (·.about) ++ [helpAbout]
  plain (programAbout ++ "\n\n") ++ toned .heading "Usage:" ++ plain " " ++ topUsage ++ plain "\n\n" ++
    headingLine "Commands" ++
    ((names.zip abouts).flatMap fun (n, a) =>
      plain "  " ++ toned .literal n ++ plain (spaces (width - n.length + 2) ++ a ++ "\n")) ++
    plain "\n" ++ headingLine "Options" ++ richLines (optionLines topOptions)

/-- The help text of the help subcommand. -/
def helpCommandText : Rich :=
  plain (helpAbout ++ "\n\n") ++ toned .heading "Usage:" ++ plain " " ++
    toned .literal (programName ++ " help") ++ plain " [COMMAND]...\n\n" ++
    headingLine "Arguments" ++ plain "  [COMMAND]...  Print help for the subcommand(s)\n"

/-- The candidates like `word` by Jaro similarity above 0.7, least alike first; equally alike
candidates keep their order. -/
def similar (word : String) (candidates : List String) : List String :=
  let scored := candidates.filterMap fun c =>
    let s := Text.jaro word c
    if s > 0.7 then some (s, c) else none
  (scored.foldl (fun (acc : List (Float × String)) (s, c) =>
    let (below, rest) := acc.span fun (t, _) => t ≤ s
    below ++ (s, c) :: rest) []).map (·.2)

end Arbor.Cli
