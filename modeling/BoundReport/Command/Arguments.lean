import BoundReport.Page

/-!
# Command line arguments

The program has three commands, each with options of its own. Three more options stand at any
place: before the command, after it, or both, in which case the one after the command counts.

An option is written `--name value`, `--name=value`, `-n value`, `-nvalue` or `-n=value`; flags
without values can be put together behind one dash. A value that is an argument of its own does
not begin with a dash, unless it is nothing else. No option stands twice before the command, or
twice after it. After `--` nothing is an option any more.
-/

namespace BoundReport

/-- The options and flags of the program. -/
inductive Flag
  | path
  | verbose
  | noColor
  | template
  | output
  | fixtures
  | pageSize
  | stdout
  | help
  | version
  deriving DecidableEq, Repr

namespace Flag

/-- The name behind two dashes. -/
def longName : Flag → Text
  | path => "path"
  | verbose => "verbose"
  | noColor => "no-color"
  | template => "template"
  | output => "output"
  | fixtures => "fixtures"
  | pageSize => "page-size"
  | stdout => "stdout"
  | help => "help"
  | version => "version"

/-- The letter behind one dash. -/
def shortName? : Flag → Option Char
  | path => some 'p'
  | verbose => some 'v'
  | template => some 't'
  | output => some 'o'
  | fixtures => some 'f'
  | help => some 'h'
  | version => some 'V'
  | noColor | pageSize | stdout => none

/-- Whether the option has a value. -/
def takesValue : Flag → Bool
  | path | template | output | fixtures | pageSize => true
  | verbose | noColor | stdout | help | version => false

/-- Whether a value is one that the option may have. -/
def admits (flag : Flag) (value : Text) : Bool :=
  match flag with
  | pageSize => (PageSize.parse value).toBool
  | _ => value ≠ []

end Flag

/-- What a command does. -/
inductive Command
  | generate (template output fixtures : Option Text) (pageSize : Option PageSize)
      (stdout : Bool)
  | check (template : Option Text)
  | list (template : Option Text)
  deriving DecidableEq, Repr

/-- The arguments of a run. -/
structure Arguments where
  command : Option Command
  path : Option Text
  verbose : Bool
  noColor : Bool
  deriving DecidableEq, Repr

/-- Why arguments start no run. -/
inductive Refusal
  /-- The arguments make no sense. -/
  | usage
  | help
  | version
  deriving DecidableEq, Repr

namespace Arguments

/-- The options at one level, each with its value; flags have the empty value. -/
abbrev Level := List (Flag × Text)

/-- The options that may stand before the command. -/
def rootFlags : List Flag := [.path, .verbose, .noColor, .help, .version]

/-- The options that may stand after every command. -/
def commonFlags : List Flag := [.path, .verbose, .noColor, .help]

/-- The names of the commands with their options. -/
def commandFlags : List (Text × List Flag) :=
  [("generate", commonFlags ++ [.template, .output, .fixtures, .pageSize, .stdout]),
   ("check", commonFlags ++ [.template]),
   ("list", commonFlags ++ [.template])]

/-- Adds an option to those of its level. -/
def add (flag : Flag) (value : Text) (level : Level) : Except Refusal Level :=
  if flag = .help then .error .help
  else if flag = .version then .error .version
  else if level.any (·.1 = flag) then .error .usage
  else if flag.takesValue && !flag.admits value then .error .usage
  else .ok (level ++ [(flag, value)])

/-- What the letters behind one dash leave open: nothing, or an option whose value is the next
argument. -/
def addCluster (flags : List Flag) (level : Level) :
    Text → Except Refusal (Level × Option Flag)
  | [] => .ok (level, none)
  | letter :: rest =>
    match flags.find? fun flag => flag.shortName? = some letter with
    | none => .error .usage
    | some flag =>
      if flag.takesValue then
        match rest with
        | [] => .ok (level, some flag)
        | '=' :: value => (add flag value level).map fun level => (level, none)
        | value => (add flag value level).map fun level => (level, none)
      else do
        let level ← add flag [] level
        addCluster flags level rest

/-- Adds an option whose name and perhaps value stand behind two dashes. -/
def addLong (flags : List Flag) (level : Level) (argument : Text) :
    Except Refusal (Level × Option Flag) :=
  let name := argument.takeWhile (· ≠ '=')
  match flags.find? fun flag => flag.longName = name with
  | none => .error .usage
  | some flag =>
    match argument.dropWhile (· ≠ '=') with
    | [] =>
      if flag.takesValue then .ok (level, some flag)
      else (add flag [] level).map fun level => (level, none)
    | _ :: value =>
      if flag.takesValue then (add flag value level).map fun level => (level, none)
      else .error .usage

/-- Whether an argument is an option or the end of all options. -/
def isOption (argument : Text) : Bool :=
  match argument with
  | '-' :: _ :: _ => true
  | _ => false

/-- Reads the options of a level up to the first argument that is none, which is given back
with all that follows it. `waiting` is an option whose value is the next argument. -/
def readLevel (flags : List Flag) (level : Level) (waiting : Option Flag) :
    List Text → Except Refusal (Level × List Text)
  | [] =>
    match waiting with
    | some _ => .error .usage
    | none => .ok (level, [])
  | argument :: rest =>
    match waiting with
    | some flag =>
      if isOption argument then .error .usage
      else do
        let level ← add flag argument level
        readLevel flags level none rest
    | none =>
      match argument with
      | ['-', '-'] => if rest = [] then .ok (level, []) else .error .usage
      | '-' :: '-' :: long => do
        let (level, waiting) ← addLong flags level long
        readLevel flags level waiting rest
      | '-' :: letter :: letters => do
        let (level, waiting) ← addCluster flags level (letter :: letters)
        readLevel flags level waiting rest
      | _ => .ok (level, argument :: rest)

/-- The value of an option at a level. -/
def value? (flag : Flag) (level : Level) : Option Text := level.lookup flag

/-- Whether a flag stands at a level. -/
def has (flag : Flag) (level : Level) : Bool := (level.lookup flag).isSome

/-- The command with this name and the options after it. -/
def commandOf (name : Text) (level : Level) : Command :=
  let template := value? .template level
  if name = "generate".toList then
    .generate template (value? .output level) (value? .fixtures level)
      ((value? .pageSize level).bind fun name => (PageSize.parse name).toOption)
      (has .stdout level)
  else if name = "check".toList then .check template
  else .list template

/-- The arguments with options before and after the command. -/
def ofLevels (before after : Level) (command : Option Command) : Arguments where
  command := command
  path := (value? .path after).or (value? .path before)
  verbose := has .verbose before || has .verbose after
  noColor := has .noColor before || has .noColor after

/-- Reads the arguments after the word `help`: at most the name of a command. -/
def readHelp : List Text → Refusal
  | [] => .help
  | [name] =>
    if (commandFlags.lookup name).isSome ∨ name = "help".toList then .help else .usage
  | _ => .usage

/-- Reads the arguments of a run. -/
def parse (arguments : List Text) : Except Refusal Arguments := do
  let (before, rest) ← readLevel rootFlags [] none arguments
  match rest with
  | [] => return ofLevels before [] none
  | name :: rest =>
    match commandFlags.lookup name with
    | some flags =>
      let (after, extra) ← readLevel flags [] none rest
      if extra = [] then return ofLevels before after (some (commandOf name after))
      else .error .usage
    | none => .error (if name = "help".toList then readHelp rest else .usage)

end Arguments

end BoundReport
