import CardTelemetry.Settings.Given
import CardTelemetry.Settings.Help

/-!
# The command line

Arguments are read from left to right. An option's value is the rest of its argument
after an equals sign, or the next argument that does not look like an option; in the
second case the value is checked only when the next known option starts or the
arguments end, and an unknown argument before that is reported first. The environment
is asked, in a fixed order, for the settings that do not occur on the command line, and
only for those. Arguments and variables are texts; those that are not UTF-8 are left out.
-/

namespace CardTelemetry

/-- Why the arguments do not lead to settings: a complaint, or a text that is asked for. -/
inductive Halt where
  | complaint (c : Complaint)
  | help (long : Bool)
  | version
deriving DecidableEq

namespace CommandLine

inductive Argument where
  /-- Two dashes alone: what follows is no option. -/
  | separator
  | help (long : Bool)
  | version
  | option (setting : Setting) (value : Option String)
  /-- A value for an option that prints a text, which takes none. -/
  | overfull (flag : Flag) (value : String)
  | unknownLong (name : String)
  | unknownShort (shown : String)
  | word
deriving DecidableEq

/-- An option's name, and what follows its first equals sign. -/
def splitValue (text : List Char) : String × Option String :=
  let name := String.ofList (text.takeWhile fun c => c != '=')
  match text.dropWhile fun c => c != '=' with
  | [] => (name, none)
  | _ :: value => (name, some (String.ofList value))

def classifyLong (text : List Char) : Argument :=
  let (name, value) := splitValue text
  match Flag.all.find? fun f => f.name = name, value with
  | some (.setting s), value => .option s value
  | some .help, none => .help true
  | some .version, none => .version
  | some f, some value => .overfull f value
  | none, _ => .unknownLong name

def classify (argument : String) : Argument :=
  match argument.toList with
  | ['-', '-'] => .separator
  | '-' :: '-' :: rest => classifyLong rest
  | '-' :: 'h' :: _ => .help false
  | '-' :: 'V' :: _ => .version
  | '-' :: c :: _ => .unknownShort (String.ofList ['-', c])
  | _ => .word

/-- An option that has started, with its value once that has come. -/
abbrev Pending := Option (Setting × Option String)

/-- What the arguments so far have given, in which order settings came first, and the option
that has started. -/
structure Progress where
  given : Given
  order : List Setting
  pending : Pending

namespace Progress

def start : Progress := ⟨.nothing, [], none⟩

/-- An order with a setting at its end, unless it came before. -/
def enter (order : List Setting) (s : Setting) : List Setting :=
  if order.contains s then order else order ++ [s]

/-- The settings named so far, the one with a value that is still to be checked included. -/
def named (p : Progress) : List Setting :=
  match p.pending with
  | some (s, some _) => enter p.order s
  | _ => p.order

def occur (p : Progress) (s : Setting) (text : String) : Except Halt Progress :=
  match p.given.occur s text with
  | .ok g => .ok ⟨g, enter p.order s, none⟩
  | .error c => .error (.complaint c)

def settle (p : Progress) : Except Halt Progress :=
  match p.pending with
  | none => .ok p
  | some (s, none) => .error (.complaint (.missingValue s))
  | some (s, some text) => p.occur s text

def await (p : Progress) (s : Setting) (value : Option String) : Progress :=
  { p with pending := some (s, value) }

end Progress

/-- Reads the arguments after the separator, where nothing is expected. -/
def scanWords (p : Progress) : List String → Except Halt Progress
  | [] => p.settle
  | word :: _ => .error (.complaint (.unexpectedArgument word))

def scan (p : Progress) : List String → Except Halt Progress
  | [] => p.settle
  | argument :: rest =>
    match classify argument with
    | .separator => scanWords p rest
    | .help long => p.settle.bind fun _ => .error (.help long)
    | .version => p.settle.bind fun _ => .error .version
    | .overfull flag value => .error (.complaint (.unexpectedValue flag value p.order))
    | .unknownLong name => .error (.complaint (.unknownOption name p.named))
    | .unknownShort shown => .error (.complaint (.unexpectedArgument shown))
    | .option s none =>
      p.settle.bind fun p =>
        if s.isSwitch then (p.occur s "true").bind fun p => scan p rest
        else scan (p.await s none) rest
    | .option s (some value) =>
      if s.isSwitch then
        .error (.complaint (.unexpectedValue (.setting s) value p.order))
      else p.settle.bind fun p => (p.occur s value).bind fun p => scan p rest
    | .word =>
      match p.pending with
      | some (s, none) => scan (p.await s (some argument)) rest
      | _ => .error (.complaint (.unexpectedArgument argument))

/-- The value that the environment has for a setting. -/
def variableValue (env : Environment) (s : Setting) : Option String :=
  s.environmentName?.bind fun name => env.lookup name

/-- Takes the environment's values for settings that are not given. -/
def layer (env : Environment) (g : Given) : List Setting → Except Complaint Given
  | [] => .ok g
  | s :: rest =>
    if g.has s then layer env g rest
    else
      match variableValue env s with
      | some text => (g.take s text).bind fun g => layer env g rest
      | none => layer env g rest

end CommandLine

/-- The settings that arguments and environment give. -/
def Settings.read (arguments : List String) (env : Environment) : Except Halt Settings :=
  (CommandLine.scan .start arguments).bind fun p =>
    match CommandLine.layer env p.given Setting.all with
    | .ok g => .ok g.settings
    | .error c => .error (.complaint c)

end CardTelemetry
