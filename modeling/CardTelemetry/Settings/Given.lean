import CardTelemetry.Settings.Complaint

/-!
# What is given

The settings for which the command line or the environment gives a value. A value is
checked when it is taken: numbers have to be numerals of 64 bits, choices one of their
words, and the root of sysfs must not be empty. Lists are split at commas.
-/

namespace CardTelemetry

structure Given where
  agentId : Option String
  sysPath : Option String
  collectInterval : Option UInt64
  collectTimeout : Option UInt64
  enable : Option (List String)
  disable : Option (List String)
  format : Option Format
  jsonLogs : Option Bool
  once : Option Bool
deriving DecidableEq

namespace Given

def nothing : Given := ⟨none, none, none, none, none, none, none, none, none⟩

def has (g : Given) : Setting → Bool
  | .agentId => g.agentId.isSome
  | .sysPath => g.sysPath.isSome
  | .collectInterval => g.collectInterval.isSome
  | .collectTimeout => g.collectTimeout.isSome
  | .enable => g.enable.isSome
  | .disable => g.disable.isSome
  | .format => g.format.isSome
  | .jsonLogs => g.jsonLogs.isSome
  | .once => g.once.isSome

def splitCommas (text : String) : List String := (text.toList.splitOn ',').map String.ofList

def readNumber (s : Setting) (text : String) : Except Complaint UInt64 :=
  match Text.readWord text.toList with
  | .ok n => .ok n
  | .error fault => .error (.notANumber s text fault)

def readFormat (text : String) : Except Complaint Format :=
  if text = "" then .error (.missingValue .format)
  else if text = "text" then .ok .text
  else if text = "json" then .ok .json
  else .error (.notAChoice .format text)

def readSwitch (s : Setting) (text : String) : Except Complaint Bool :=
  if text = "" then .error (.missingValue s)
  else if text = "true" then .ok true
  else if text = "false" then .ok false
  else .error (.notAChoice s text)

/-- Takes a value for a setting; a list grows, and any other value is replaced. -/
def take (g : Given) (s : Setting) (text : String) : Except Complaint Given :=
  match s with
  | .agentId => .ok { g with agentId := some text }
  | .sysPath =>
    if text = "" then .error (.missingValue .sysPath) else .ok { g with sysPath := some text }
  | .collectInterval =>
    (readNumber .collectInterval text).map fun n => { g with collectInterval := some n }
  | .collectTimeout =>
    (readNumber .collectTimeout text).map fun n => { g with collectTimeout := some n }
  | .enable => .ok { g with enable := some (g.enable.getD [] ++ splitCommas text) }
  | .disable => .ok { g with disable := some (g.disable.getD [] ++ splitCommas text) }
  | .format => (readFormat text).map fun f => { g with format := some f }
  | .jsonLogs => (readSwitch .jsonLogs text).map fun b => { g with jsonLogs := some b }
  | .once => (readSwitch .once text).map fun b => { g with once := some b }

/-- Takes a value for a setting on the command line, where only lists may be repeated. -/
def occur (g : Given) (s : Setting) (text : String) : Except Complaint Given :=
  if g.has s && !s.isList then .error (.repeated s) else g.take s text

/-- The settings, with defaults for what is not given. -/
def settings (g : Given) : Settings where
  agentId := g.agentId
  sysPath := g.sysPath.getD Settings.default.sysPath
  collectInterval := g.collectInterval.getD Settings.default.collectInterval
  collectTimeout := g.collectTimeout.getD Settings.default.collectTimeout
  enable := g.enable.getD []
  disable := g.disable.getD []
  format := g.format.getD .text
  jsonLogs := g.jsonLogs.getD false
  once := g.once.getD false

end Given

end CardTelemetry
