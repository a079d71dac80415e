import Arbor.Cli.Grammar
/-!
Reading the command line.
-/

namespace Arbor.Cli

/-- The words of a pattern. -/
structure PatternArgs where
  pattern : String
  regex : Bool := false
  wholeWord : Bool := false
  ignoreCase : Bool := false
  deriving Inhabited

/-- The words that pick a tree and a part of it. -/
structure TreeArgs where
  path : String := "."
  ignore : List String := []
  within : Option String := none
  noColor : Bool := false
  deriving Inhabited

inductive Action where
  | find (p : PatternArgs) (t : TreeArgs) (json : Bool)
  | edit (p : PatternArgs) (replacement : String) (t : TreeArgs) (apply diff : Bool)
  | outline (t : TreeArgs)
  | imports (groupBy : List String) (t : TreeArgs) (json : Bool)
  | show (node : String) (t : TreeArgs)
  deriving Inhabited

/-- The file or directory an action works on. -/
def Action.target : Action → String
  | .find _ t _ | .edit _ _ t _ _ | .outline t | .imports _ t _ | .show _ t => t.path

/-- A command line read through. -/
structure Invocation where
  action : Action
  config : Option String := none
  verbose : Bool := false
  deriving Inhabited

/-- What a command line asks of the program. -/
inductive Request where
  | run (inv : Invocation)
  | print (text : Rich)
  | refuse (text : Rich)
  deriving Inhabited

/-- An error in the program's error format: the message, the tips, the usage line and where
to find help. -/
def errorText (msg : Rich) (tips : List Rich) (usage : Option Rich) : Rich :=
  toned .error "error:" ++ plain " " ++ msg ++
    (if tips.isEmpty then [] else plain "\n" ++
      tips.flatMap fun t => plain "\n  " ++ toned .valid "tip:" ++ plain " " ++ t) ++
    (match usage with
     | some u => plain "\n\n" ++ toned .heading "Usage:" ++ plain " " ++ u
     | none => []) ++
    plain "\n\nFor more information, try '" ++ toned .literal "--help" ++ plain "'.\n"

def offered (n : String) : Rich := plain "'" ++ toned .valid n ++ plain "'"

def refusedName (n : String) : Rich := plain "'" ++ toned .invalid n ++ plain "'"

def quotedLiteral (n : String) : Rich := plain "'" ++ toned .literal n ++ plain "'"

def similarTip (what : String) (names : List String) : List Rich :=
  match names with
  | [] => []
  | [n] => [plain ("a similar " ++ what ++ " exists: ") ++ offered n]
  | n :: ns => [plain ("some similar " ++ what ++ "s exist: ") ++ offered n ++
      ns.flatMap fun m => plain ", " ++ offered m]

def valueList (what : String) (values : List String) : Rich :=
  match values with
  | [] => []
  | v :: vs => plain ("\n  [" ++ what ++ ": ") ++ toned .valid v ++
      (vs.flatMap fun w => plain ", " ++ toned .valid w) ++ plain "]"

/-- The message for an argument nothing takes. -/
def unexpected (arg : String) : Rich :=
  plain "unexpected argument " ++ refusedName arg ++ plain " found"

def trailingTip (arg : String) : Rich :=
  plain "to pass " ++ refusedName arg ++ plain " as a value, use " ++ offered ("-- " ++ arg)

structure Given where
  values : List (String × List String) := []
  positionals : Nat := 0
  trailing : Bool := false
  deriving Inhabited

def Given.has (g : Given) (id : String) : Bool := g.values.any (·.1 == id)

/-- The values given for a key. -/
def Given.all (g : Given) (id : String) : List String :=
  ((g.values.find? (·.1 == id)).map (·.2)).getD []

def Given.last? (g : Given) (id : String) : Option String := (g.all id).getLast?

def Given.keys (g : Given) : List String := g.values.map (·.1)

/-- The given values with one more for a key. -/
def Given.add (g : Given) (id : String) (v : Option String) : Given :=
  let vs := v.toList
  if g.has id then { g with values := g.values.map fun (k, xs) => if k == id then (k, xs ++ vs) else (k, xs) }
  else { g with values := g.values ++ [(id, vs)] }

def startsOption (a : String) : Bool := a.startsWith "-" && a.length > 1

def splitAttached (s : String) : String × Option String :=
  match s.splitOn "=" with
  | [] => (s, none)
  | [n] => (n, none)
  | n :: rest => (n, some ("=".intercalate rest))

/-- Where reading a command stands: the command, or the program itself. -/
inductive Level where
  | top
  | sub (c : Command)
  deriving Inhabited

/-- The options read at a level. -/
def Level.options : Level → List Opt
  | .top => topOptions
  | .sub c => c.allOptions

/-- The help text of a level. -/
def Level.helpText : Level → Rich
  | .top => topHelpText
  | .sub c => c.helpText

/-- The usage line of a level for help. -/
def Level.helpUsage : Level → Rich
  | .top => topUsage
  | .sub c => c.helpUsage

/-- The usage line of a level after its arguments `used` were given; with nothing given,
the usage line for help. -/
def Level.usage (l : Level) (used : List String) : Rich :=
  if used.isEmpty then l.helpUsage
  else match l with
    | .top =>
      let opts := used.filterMap fun id => topOptions.find? (·.id == id)
      toned .literal programName ++
        (opts.flatMap fun o => plain " " ++ toned .literal ("--" ++ o.long) ++ plain o.valueSuffix) ++
        plain " <COMMAND>"
    | .sub c => c.smartUsage used

def Level.hasPositionals : Level → Bool
  | .top => false
  | .sub c => !c.positionals.isEmpty

def unknownLong (l : Level) (g : Given) (name : String) (rest : List String) : Request :=
  let arg := "--" ++ name
  let own := (similar name (l.options.map (·.long))).getLast?
  let elsewhere : Option (String × String) := match l, own with
    | .top, none =>
      let found := commands.filterMap fun c =>
        match (similar name (c.allOptions.map (·.long))).getLast?, rest.idxOf? c.name with
        | some cand, some pos => some (cand, c.name, pos)
        | _, _ => none
      (found.foldl (fun (best : Option (String × String × Nat)) x =>
        match best with
        | some b => if x.2.2 < b.2.2 then some x else best
        | none => some x) none).map fun (cand, sub, _) => (cand, sub)
    | _, _ => none
  let used := match own with
    | some cand =>
      match l.options.find? (·.long == cand) with
      | some o => if g.has o.id then g.keys else g.keys ++ [o.id]
      | none => g.keys
    | none => g.keys
  let trailing := if own.isNone && elsewhere.isNone && !g.trailing && l.hasPositionals then
    [trailingTip arg] else []
  let tips := (match own with
      | some cand => similarTip "argument" ["--" ++ cand]
      | none => []) ++ trailing ++
    (match elsewhere with
      | some (cand, sub) => [offered (sub ++ " --" ++ cand) ++ plain " exists"]
      | none => [])
  .refuse (errorText (unexpected arg) tips (some (l.usage used)))

def unknownShort (l : Level) (g : Given) (c : Char) : Request :=
  let arg := "-" ++ c.toString
  let tips := if !g.trailing && l.hasPositionals then [trailingTip arg] else []
  .refuse (errorText (unexpected arg) tips (some l.helpUsage))

def emptyValue (spec : String) (choices : List String) : Request :=
  .refuse (errorText (plain "a value is required for " ++ refusedName spec ++
    plain " but none was supplied" ++ valueList "possible values" choices) [] none)

/-- The refusal of a value outside an option's list. -/
def invalidValue (o : Opt) (v : String) : Request :=
  .refuse (errorText (plain "invalid value " ++ refusedName v ++ plain " for " ++
    quotedLiteral o.spec ++ valueList "possible values" o.choices)
    ((similar v o.choices).getLast?.toList.map fun s => plain "a similar value exists: " ++ offered s)
    none)

def repeated (l : Level) (o : Opt) : Request :=
  .refuse (errorText (plain "the argument " ++ refusedName o.spec ++
    plain " cannot be used multiple times") [] (some l.helpUsage))

/-- The refusal when the word after an option that needs a value is itself an option: the
word is read as an option, so an unknown one is refused as such, and a known one leaves the
first without its value. -/
def optionForValue (l : Level) (g : Given) (o : Opt) (word : String) (rest : List String) : Request :=
  if word == "--" then emptyValue o.spec o.choices
  else if word.startsWith "--" then
    let (name, _) := splitAttached (word.drop 2).toString
    if l.options.any (·.long == name) then emptyValue o.spec o.choices
    else unknownLong l g name rest
  else match (word.drop 1).toString.toList with
    | c :: _ =>
      if l.options.any (·.short == some c) then emptyValue o.spec o.choices
      else unknownShort l g c
    | [] => emptyValue o.spec o.choices

def takeValue (l : Level) (g : Given) (o : Opt) (v : String) : Except Request Given :=
  if v.isEmpty && (o.nonEmpty || !o.choices.isEmpty) then .error (emptyValue o.spec o.choices)
  else if !o.choices.isEmpty && !o.choices.contains v then .error (invalidValue o v)
  else match o.takes with
    | .value _ => if g.has o.id then .error (repeated l o) else .ok (g.add o.id (some v))
    | _ => .ok (g.add o.id (some v))

def giveFlag (l : Level) (g : Given) (o : Opt) : Except Request Given :=
  if g.has o.id then .error (repeated l o) else .ok (g.add o.id none)

def readShorts (l : Level) (g : Given) : List Char → List String → Except Request (Given × List String)
  | [], rest => .ok (g, rest)
  | c :: cs, rest =>
    match l.options.find? (·.short == some c) with
    | none => .error (unknownShort l g c)
    | some o =>
      if o.id == "help" then .error (.print l.helpText)
      else if o.id == "version" then .error (.print (plain (programName ++ " " ++ programVersion ++ "\n")))
      else match o.takes with
        | .flag => do
          let g ← giveFlag l g o
          readShorts l g cs rest
        | _ =>
          let attached := match cs with
            | '=' :: v => String.ofList v
            | v => String.ofList v
          if !cs.isEmpty then do
            let g ← takeValue l g o attached
            pure (g, rest)
          else match rest with
            | v :: rest' =>
              if startsOption v then .error (optionForValue l g o v rest')
              else do
                let g ← takeValue l g o v
                pure (g, rest')
            | [] => .error (emptyValue o.spec o.choices)

def readLong (l : Level) (g : Given) (body : String) (rest : List String) :
    Except Request (Given × List String) :=
  let (name, attached) := splitAttached body
  match l.options.find? (·.long == name) with
  | none => .error (unknownLong l g name rest)
  | some o =>
    match o.takes, attached with
    | .flag, some v =>
      let used := (g.keys.filter fun k => match l with
        | .sub c => !(c.positionals.any fun p => p.id == k && p.required)
        | .top => true) ++ [o.id]
      .error (.refuse (errorText (plain "unexpected value " ++ refusedName v ++ plain " for " ++
        quotedLiteral o.spec ++ plain " found; no more were expected") [] (some (l.usage used))))
    | .flag, none =>
      if o.id == "help" then .error (.print l.helpText)
      else if o.id == "version" then .error (.print (plain (programName ++ " " ++ programVersion ++ "\n")))
      else do
        let g ← giveFlag l g o
        pure (g, rest)
    | _, some v => do
      let g ← takeValue l g o v
      pure (g, rest)
    | _, none =>
      match rest with
      | v :: rest' =>
        if startsOption v then .error (optionForValue l g o v rest')
        else do
          let g ← takeValue l g o v
          pure (g, rest')
      | [] => .error (emptyValue o.spec o.choices)

def readCommand (c : Command) : Nat → Given → List String → Except Request Given
  | 0, g, _ => .ok g
  | _, g, [] => .ok g
  | fuel + 1, g, a :: rest =>
    if !g.trailing && a == "--" then readCommand c fuel { g with trailing := true } rest
    else if !g.trailing && a.startsWith "--" then do
      let (g, rest) ← readLong (.sub c) g (a.drop 2).toString rest
      readCommand c fuel g rest
    else if !g.trailing && startsOption a then do
      let (g, rest) ← readShorts (.sub c) g (a.drop 1).toString.toList rest
      readCommand c fuel g rest
    else
      match c.positionals[g.positionals]? with
      | some p =>
        if a.isEmpty && p.nonEmpty then .error (emptyValue (p.spec p.required) [])
        else readCommand c fuel { g.add p.id (some a) with positionals := g.positionals + 1 } rest
      | none =>
        .error (.refuse (errorText (unexpected a) [] (some c.helpUsage)))

def checkRequired (c : Command) (g : Given) : Except Request Unit :=
  let missing := c.positionals.filter fun p => p.required && !g.has p.id
  if missing.isEmpty then .ok ()
  else .error (.refuse (errorText (plain "the following required arguments were not provided:" ++
    missing.flatMap fun p => plain "\n  " ++ toned .valid (p.spec true)) []
    (some (c.smartUsage (g.keys ++ missing.map (·.id))))))

def patternOf (g : Given) : PatternArgs :=
  { pattern := (g.last? "pattern").getD "", regex := g.has "regex",
    wholeWord := g.has "whole_word", ignoreCase := g.has "ignore_case" }

def treeOf (g : Given) : TreeArgs :=
  { path := (g.last? "path").getD ".", ignore := g.all "ignore", within := g.last? "within",
    noColor := g.has "no_color" }

def actionOf (c : Command) (g : Given) : Action :=
  match c.name with
  | "find" => .find (patternOf g) (treeOf g) (g.has "json")
  | "replace" => .edit (patternOf g) ((g.last? "replacement").getD "") (treeOf g)
      (g.has "apply") (g.has "diff")
  | "delete" => .edit (patternOf g) "" (treeOf g) (g.has "apply") (g.has "diff")
  | "outline" => .outline (treeOf g)
  | "imports" => .imports (g.all "group_by") (treeOf g) (g.has "json")
  | _ => .show ((g.last? "node").getD "") (treeOf g)

/-- The message for a word that names no subcommand. -/
def unrecognized (name : String) : Rich :=
  plain "unrecognized subcommand " ++ refusedName name

def helpFor : List String → Request
  | [] => .print topHelpText
  | [n] =>
    if n == "help" then .print helpCommandText
    else match commands.find? (·.name == n) with
      | some c => .print c.helpText
      | none => .refuse (errorText (unrecognized n) [] (some topUsage))
  | n :: m :: _ =>
    match commands.find? (·.name == n) with
    | some c => .refuse (errorText (unrecognized m) [] (some c.helpUsage))
    | none => .refuse (errorText (unrecognized n) [] (some topUsage))

def readTop : Nat → Given → List String → Except Request (Given × Option (Command × List String))
  | 0, g, _ => .ok (g, none)
  | _, g, [] => .ok (g, none)
  | fuel + 1, g, a :: rest =>
    if !g.trailing && a == "--" then readTop fuel { g with trailing := true } rest
    else if !g.trailing && a.startsWith "--" then do
      let (g, rest) ← readLong .top g (a.drop 2).toString rest
      readTop fuel g rest
    else if !g.trailing && startsOption a then do
      let (g, rest) ← readShorts .top g (a.drop 1).toString.toList rest
      readTop fuel g rest
    else if g.trailing then
      if commandNames.contains a then
        .error (.refuse (errorText (unexpected "--")
          [plain "subcommand " ++ offered a ++ plain "; to use it, remove the " ++ refusedName "--" ++
            plain " before it"] (some topUsage)))
      else .error (.refuse (errorText (unrecognized a) [] (some topUsage)))
    else if a == "help" then .error (helpFor rest)
    else match commands.find? (·.name == a) with
      | some c => .ok (g, some (c, rest))
      | none =>
        let like := similar a commandNames
        .error (.refuse (errorText (unrecognized a) (similarTip "subcommand" like) (some topUsage)))

/-- What a command line, without the program's name, asks for. -/
def readArgs (args : List String) : Request :=
  match readTop (args.length + 1) {} args with
  | .error r => r
  | .ok (_, none) =>
    if args.isEmpty then .refuse topHelpText
    else .refuse (errorText (refusedName programName ++
      plain " requires a subcommand but one was not provided" ++ valueList "subcommands" commandNames)
      [] (some topUsage))
  | .ok (top, some (c, rest)) =>
    match readCommand c (rest.length + 1) {} rest with
    | .error r => r
    | .ok g =>
      match checkRequired c g with
      | .error r => r
      | .ok () =>
        let config := (g.last? "config").orElse fun _ => top.last? "config"
        .run { action := actionOf c g, config, verbose := g.has "verbose" || top.has "verbose" }

end Arbor.Cli
