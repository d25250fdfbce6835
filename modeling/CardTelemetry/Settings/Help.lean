import CardTelemetry.Settings.Basic
import CardTelemetry.Text.Terminal

/-!
# Help texts

The short help gives each option a line of description, with its variable, default
and choices in brackets behind it; the long help gives those lines of their own.
A variable is shown with the value that it has, whose further lines are indented like the
text around it. What the value holds for the terminal is left out, and an unfinished control
sequence in it ends at the next option's name.
-/

namespace CardTelemetry

/-- Variables and their values; the first entry of a name counts. -/
abbrev Environment := List (String × String)

namespace Help

def programLine : String := "drm-agent 0.1.0"

def aboutLine : String :=
  "Telemetry agent exposing DRM (graphics card) state from sysfs as labeled gauges"

def about : Setting → String
  | .agentId =>
    "Unique identifier for this agent instance. if none provided, default to hostname"
  | .sysPath => "Root of the sysfs mount to read DRM state from"
  | .collectInterval => "Telemetry collection interval in milliseconds"
  | .collectTimeout => "Upper bound on a single collection in milliseconds"
  | .enable => "Comma-separated collectors to enable in addition to the defaults"
  | .disable => "Comma-separated collectors to disable"
  | .format => "Output format for collected samples"
  | .jsonLogs => "Enable JSON structured logging"
  | .once => "Collect once and exit; non-zero exit if any collector fails"

def default? : Setting → Option String
  | .sysPath => some Settings.defaultSysPath
  | .collectInterval => some Settings.default.collectInterval.toNat.repr
  | .collectTimeout => some Settings.default.collectTimeout.toNat.repr
  | .format => some "text"
  | _ => none

/-- What each choice of a setting means, where the help says so. -/
def choices : Setting → List (String × String)
  | .format =>
    [("text", "One `name\x7blabels\x7d value` line per sample"),
      ("json", "One JSON report per collection")]
  | _ => []

def optionIndent : String := "      "

def textIndent : String := "          "

/-- A text with all its lines but the first indented. -/
def indented (s : String) : String :=
  String.ofList (s.toList.flatMap fun c => if c = '\n' then c :: textIndent.toList else [c])

/-- The variable and the default of a setting, each in brackets. -/
def notes (env : Environment) (s : Setting) : List String :=
  let shown :=
    match s.environmentName? with
    | some name => ["[env: " ++ name ++ "=" ++ indented ((env.lookup name).getD "") ++ "]"]
    | none => []
  let default :=
    match default? s with
    | some d => ["[default: " ++ d ++ "]"]
    | none => []
  shown ++ default

def optionLine (s : Setting) : String :=
  optionIndent ++ Text.Terminal.marked ("--" ++ s.option) ++ s.valueMark ++ "\n"

def shortItem (env : Environment) (s : Setting) : String :=
  let words :=
    if (choices s).isEmpty then []
    else ["[possible values: " ++ ", ".intercalate ((choices s).map Prod.fst) ++ "]"]
  optionLine s ++ textIndent ++
    " ".intercalate (about s :: (notes env s ++ words)) ++ "\n"

def longItem (env : Environment) (s : Setting) : String :=
  let words :=
    if (choices s).isEmpty then ""
    else
      "\n" ++ textIndent ++ "Possible values:\n" ++
        String.join ((choices s).map fun c => textIndent ++ "- " ++ c.1 ++ ": " ++ c.2 ++ "\n")
  let extra :=
    if (notes env s).isEmpty then ""
    else
      textIndent ++ "\n" ++ String.join ((notes env s).map fun n => textIndent ++ n ++ "\n")
  optionLine s ++ textIndent ++ about s ++ "\n" ++ words ++ extra

/-- The two options that print and exit. -/
def closing (help : String) (gap : String) : String :=
  "  -h, --help\n" ++ textIndent ++ help ++ "\n" ++ gap ++
    "  -V, --version\n" ++ textIndent ++ "Print version\n"

def opening : String := aboutLine ++ "\n\nUsage: drm-agent [OPTIONS]\n\nOptions:\n"

def short (env : Environment) : String :=
  Text.Terminal.plain <|
    opening ++ String.join (Setting.all.map (shortItem env)) ++
      closing "Print help (see more with '--help')" ""

def long (env : Environment) : String :=
  Text.Terminal.plain <|
    opening ++ String.join (Setting.all.map fun s => longItem env s ++ "\n") ++
      closing "Print help (see a summary with '-h')" "\n"

end Help

end CardTelemetry
