import TaintFlow.Text

/-!
# Flags

How arguments are read: `--name`, `--name value`, `--name=value`, short flags in one word as in
`-vO file`, and `--` before arguments that only look like flags. Arguments are read from left to
right, and the first that asks for help, for the version or makes no sense ends the reading.
-/

namespace TaintFlow.CommandLine

/-! ## 1. What can be given -/

/-- What a flag does. -/
inductive FlagRole where
  /-- It is on when given, once. -/
  | switch
  /-- It takes a value that has to pass a test, once. -/
  | value (accepts : String → Bool)
  /-- It takes a value each time it is given. -/
  | list
  /-- It asks for help. -/
  | help
  /-- It asks for the version. -/
  | version

/-- A flag with its help. -/
structure Flag where
  long : String
  /-- Other names that help does not show. -/
  aliases : List String := []
  short : Option Char := none
  role : FlagRole := .switch
  /-- The name of its value. -/
  valueName : String := ""
  about : String
  /-- The values that it takes, with their help. -/
  choices : List (String × String) := []

/-- Whether a flag takes a value. -/
def Flag.takesValue (f : Flag) : Bool :=
  match f.role with
  | .value _ | .list => true
  | _ => false

/-- The arguments that a command takes. -/
structure Signature where
  flags : List Flag
  /-- How many arguments besides flags. -/
  positionals : Nat := 0
  /-- Words that start a command of their own. -/
  commands : List String := []

/-- Why arguments make no sense. -/
inductive UsageError where
  | unexpected (argument : String)
  | valueMissing (flag : String)
  | valueRefused (value flag : String)
  | valueUnexpected (value flag : String)
  | pathEmpty
  | repeated (flag : String)
  | unknownCommand (name : String)
  deriving DecidableEq, Repr, Inhabited

/-- The wording of an error. -/
def UsageError.message : UsageError → String
  | unexpected argument => s!"unexpected argument '{argument}' found"
  | valueMissing flag => s!"a value is required for '--{flag}' but none was supplied"
  | valueRefused value flag => s!"invalid value '{value}' for '--{flag}'"
  | valueUnexpected value flag => s!"unexpected value '{value}' for '--{flag}' found"
  | pathEmpty => "a value is required for '[PATH]' but none was supplied"
  | repeated flag => s!"the argument '--{flag}' cannot be used multiple times"
  | unknownCommand name => s!"unrecognized subcommand '{name}'"

/-- What ends the reading early. -/
inductive Interruption where
  | help (long : Bool)
  | version
  | usage (error : UsageError)
  deriving DecidableEq, Repr, Inhabited

/-! ## 2. What was given -/

/-- What was read. -/
structure Given where
  /-- Flags by name, with their values. -/
  flags : List (String × String) := []
  positionals : List String := []
  /-- The word of a command and the arguments after it. -/
  command : Option (String × List String) := none
  /-- What is wrong with the argument right before the command. -/
  fault : Option Interruption := none
  deriving DecidableEq, Repr, Inhabited

namespace Given

/-- Whether a flag was given. -/
def has (g : Given) (name : String) : Bool := g.flags.any (·.1 == name)

/-- The value of a flag. -/
def value? (g : Given) (name : String) : Option String := g.flags.lookup name

/-- All values of a flag, in order. -/
def values (g : Given) (name : String) : List String :=
  (g.flags.filter (·.1 == name)).map (·.2)

/-- Takes in a flag that takes no value. -/
def addSwitch (g : Given) (f : Flag) (long : Bool) : Except Interruption Given :=
  match f.role with
  | .help => .error (.help long)
  | .version => .error .version
  | _ =>
    if g.has f.long then .error (.usage (.repeated f.long))
    else .ok { g with flags := g.flags ++ [(f.long, "")] }

/-- Takes in the value of a flag. -/
def addValue (g : Given) (f : Flag) (value : String) : Except Interruption Given :=
  let added := { g with flags := g.flags ++ [(f.long, value)] }
  match f.role with
  | .value accepts =>
    if !accepts value then .error (.usage (.valueRefused value f.long))
    else if g.has f.long then .error (.usage (.repeated f.long))
    else .ok added
  | _ => .ok added

/-- Takes in an argument that is no flag. It must not be empty. -/
def addPositional (s : Signature) (g : Given) (argument : String) : Except Interruption Given :=
  if s.positionals ≤ g.positionals.length then .error (.usage (.unexpected argument))
  else if argument = "" then .error (.usage .pathEmpty)
  else .ok { g with positionals := g.positionals ++ [argument] }

end Given

/-! ## 3. Reading -/

namespace Signature

/-- The flag of a name. -/
def long? (s : Signature) (name : String) : Option Flag :=
  s.flags.find? fun f => f.long == name || f.aliases.contains name

/-- The flag of a letter. -/
def short? (s : Signature) (letter : Char) : Option Flag :=
  s.flags.find? fun f => f.short == some letter

/-- Takes in a long flag. The answer may be a flag that waits for its value. -/
def readLong (s : Signature) (g : Given) (body : String) :
    Except Interruption (Given × Option Flag) :=
  let (name, attached) :=
    match Text.splitFirst? '=' body with
    | some (name, value) => (name, some value)
    | none => (body, none)
  match s.long? name with
  | none => .error (.usage (.unexpected ("--" ++ body)))
  | some f =>
    match f.takesValue, attached with
    | true, some value => (g.addValue f value).map (·, none)
    | true, none => .ok (g, some f)
    | false, some value => .error (.usage (.valueUnexpected value name))
    | false, none => (g.addSwitch f true).map (·, none)

/-- Takes in short flags in one word. What follows the letter of a flag with a value is the
value. -/
def readShort (s : Signature) (g : Given) : List Char →
    Except Interruption (Given × Option Flag)
  | [] => .ok (g, none)
  | letter :: rest =>
    match s.short? letter with
    | none => .error (.usage (.unexpected (String.ofList ['-', letter])))
    | some f =>
      if f.takesValue then
        match rest with
        | [] => .ok (g, some f)
        | '=' :: value => (g.addValue f (String.ofList value)).map (·, none)
        | value => (g.addValue f (String.ofList value)).map (·, none)
      else
        match g.addSwitch f false with
        | .ok g => readShort s g rest
        | .error e => .error e

/-- Whether an argument is written like a flag. -/
def looksLikeFlag (argument : String) : Bool :=
  Text.startsWith argument "-" && argument ≠ "-"

/-- Takes in one argument before any `--`. -/
def readArgument (s : Signature) (g : Given) (argument : String) :
    Except Interruption (Given × Option Flag) :=
  match argument.toList with
  | '-' :: '-' :: body => s.readLong g (String.ofList body)
  | '-' :: letter :: rest => s.readShort g (letter :: rest)
  | _ => (g.addPositional s argument).map (·, none)

/-- What to do about a value that is refused. If a command follows at once, its own arguments come
first, as they may ask for help. -/
def refuse (s : Signature) (g : Given) (fault : Interruption) :
    List String → Except Interruption Given
  | [] => .error fault
  | word :: rest =>
    if s.commands.contains word then .ok { g with command := some (word, rest), fault := some fault }
    else .error fault

/-- Reads arguments. A flag that waits takes the next argument unless that looks like a flag. -/
def read (s : Signature) (g : Given) (waiting : Option Flag) :
    List String → Except Interruption Given
  | [] =>
    match waiting with
    | some f => .error (.usage (.valueMissing f.long))
    | none => .ok g
  | argument :: rest =>
    match waiting with
    | some f =>
      if looksLikeFlag argument then .error (.usage (.valueMissing f.long))
      else
        match g.addValue f argument with
        | .ok g => read s g none rest
        | .error e => s.refuse g e rest
    | none =>
      if argument = "--" then rest.foldlM (Given.addPositional s) g
      else if s.commands.contains argument then .ok { g with command := some (argument, rest) }
      else
        match s.readArgument g argument with
        | .ok (g, waiting) => read s g waiting rest
        | .error (.usage .pathEmpty) => s.refuse g (.usage .pathEmpty) rest
        | .error e => .error e

end Signature

end TaintFlow.CommandLine
