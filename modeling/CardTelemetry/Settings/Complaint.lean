import CardTelemetry.Settings.Basic
import CardTelemetry.Text.Lines
import CardTelemetry.Text.Similarity
import CardTelemetry.Text.Terminal

/-!
# Complaints about the command line

Why arguments or variables give no settings, and how the user is told. A complaint begins
with what is wrong; the rest lists the words to choose from, hints at a known word that is
much like the unknown one, shows the usage where the shape of the command line is at fault,
and points to the help. Words of the user are shown without what they hold for the terminal.
-/

namespace CardTelemetry

inductive Complaint where
  /-- A word where none is expected, or an unknown short option with its dash. -/
  | unexpectedArgument (shown : String)
  /-- An unknown long option without its dashes, and the settings named before it. -/
  | unknownOption (name : String) (named : List Setting)
  | missingValue (setting : Setting)
  | notAChoice (setting : Setting) (value : String)
  | notANumber (setting : Setting) (value : String) (fault : Text.NumeralFault)
  | repeated (setting : Setting)
  /-- A value for an option that takes none, and the settings given before it. -/
  | unexpectedValue (flag : Flag) (value : String) (named : List Setting)
deriving DecidableEq

def Text.NumeralFault.reason : Text.NumeralFault → String
  | .empty => "cannot parse integer from empty string"
  | .invalidDigit => "invalid digit found in string"
  | .tooLarge => "number too large to fit in target type"

namespace Complaint

open Text.Similarity (closest?)

def quoted (s : String) : String := "'" ++ Text.Terminal.cited s ++ "'"

def headline : Complaint → String
  | .unexpectedArgument shown => "error: unexpected argument " ++ quoted shown ++ " found"
  | .unknownOption name _ => "error: unexpected argument " ++ quoted ("--" ++ name) ++ " found"
  | .missingValue s => "error: a value is required for '" ++ s.usage ++ "' but none was supplied"
  | .notAChoice s value => "error: invalid value " ++ quoted value ++ " for '" ++ s.usage ++ "'"
  | .notANumber s value fault =>
    "error: invalid value " ++ quoted value ++ " for '" ++ s.usage ++ "': " ++ fault.reason
  | .repeated s => "error: the argument '" ++ s.usage ++ "' cannot be used multiple times"
  | .unexpectedValue flag value _ =>
    "error: unexpected value " ++ quoted value ++ " for '" ++ flag.usage ++
      "' found; no more were expected"

def choices : Complaint → List String
  | .missingValue s => s.choices
  | .notAChoice s _ => s.choices
  | _ => []

/-- The known option that is most like an unknown one. -/
def closestFlag? (name : String) : Option Flag :=
  (closest? name (Flag.all.map Flag.name)).bind fun known =>
    Flag.all.find? fun f => f.name = known

def tip? : Complaint → Option String
  | .unknownOption name _ =>
    (closestFlag? name).map fun f => "a similar argument exists: '--" ++ f.name ++ "'"
  | .notAChoice s value =>
    (closest? value s.choices).map fun word => "a similar value exists: '" ++ word ++ "'"
  | _ => none

/-- The options that the user had or may have had in mind; all of them if there are none. -/
def usageOf (flags : List Flag) : String :=
  if flags.isEmpty then "[OPTIONS]" else " ".intercalate (flags.map Flag.usage)

/-- An option that prints a text, and any of the settings. -/
def usageWithSettings (flag : Flag) : String :=
  let first :=
    match flag with
    | .setting _ => ""
    | f => f.usage ++ " "
  first ++ "<" ++ "|".intercalate (Setting.all.map Setting.usage) ++ ">"

/-- How the program is called, where the call was at fault. -/
def usage? : Complaint → Option String
  | .unexpectedArgument _ => some (usageOf [])
  | .unknownOption name named =>
    let named := named.map Flag.setting
    let meant := (closestFlag? name).toList.filter fun f => !named.contains f
    some (usageOf (named ++ meant))
  | .repeated _ => some (usageOf [])
  | .unexpectedValue flag _ named =>
    some (if named.isEmpty then flag.usage else usageWithSettings flag)
  | _ => none

/-- A paragraph with a heading, and an empty line behind it. -/
def paragraph (heading : String) : Option String → String
  | some body => heading ++ body ++ "\n\n"
  | none => ""

def text (c : Complaint) : String :=
  let choices :=
    if c.choices.isEmpty then ""
    else "  [possible values: " ++ ", ".intercalate c.choices ++ "]\n"
  c.headline ++ "\n" ++ choices ++ "\n" ++ paragraph "  tip: " c.tip? ++
    paragraph "Usage: drm-agent " c.usage? ++ "For more information, try '--help'.\n"

def firstLine (c : Complaint) : String := String.ofList ((Text.lines c.text.toList).headD [])

end Complaint

end CardTelemetry
