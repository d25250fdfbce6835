import CardTelemetry.Text.Numeral

/-!
# Settings

What the agent is told before it starts. Each setting has an option on the command
line, and all but one a variable in the environment as well; what neither gives is
left at its default. Settings are texts: a root of sysfs that is not UTF-8 is left out,
though paths below a root are bytes.
-/

namespace CardTelemetry

inductive Format where
  | text
  | json
deriving DecidableEq

/-- A time in seconds and nanoseconds. -/
structure Span where
  seconds : Nat
  nanos : Nat
deriving DecidableEq

namespace Span

def ofMillis (n : Nat) : Span := ⟨n / 1000, n % 1000 * 1000000⟩

def millis (s : Span) : Nat := s.seconds * 1000 + s.nanos / 1000000

end Span

structure Settings where
  agentId : Option String
  sysPath : String
  collectInterval : UInt64
  collectTimeout : UInt64
  enable : List String
  disable : List String
  format : Format
  jsonLogs : Bool
  once : Bool
deriving DecidableEq

namespace Settings

def defaultSysPath : String := "/sys"

def default : Settings := ⟨none, defaultSysPath, 15000, 5000, [], [], .text, false, false⟩

def interval (s : Settings) : Span := .ofMillis s.collectInterval.toNat

def timeout (s : Settings) : Span := .ofMillis s.collectTimeout.toNat

/-- The agent's name: the one it is given, else its host's. -/
def agentName (s : Settings) (host : String) : String := s.agentId.getD host

end Settings

inductive Setting where
  | agentId
  | sysPath
  | collectInterval
  | collectTimeout
  | enable
  | disable
  | format
  | jsonLogs
  | once
deriving DecidableEq

namespace Setting

/-- All settings, in the order in which the help lists them and variables are looked at. -/
def all : List Setting :=
  [agentId, sysPath, collectInterval, collectTimeout, enable, disable, format, jsonLogs, once]

/-- The option's name, without its dashes. -/
def option : Setting → String
  | agentId => "agent-id"
  | sysPath => "sys-path"
  | collectInterval => "collect-interval-ms"
  | collectTimeout => "collect-timeout-ms"
  | enable => "enable-collector"
  | disable => "disable-collector"
  | format => "format"
  | jsonLogs => "json-logs"
  | once => "once"

/-- What the help calls the option's value; a switch has none. -/
def valueName? : Setting → Option String
  | agentId => some "AGENT_ID"
  | sysPath => some "SYS_PATH"
  | collectInterval => some "COLLECT_INTERVAL_MS"
  | collectTimeout => some "COLLECT_TIMEOUT_MS"
  | enable => some "ENABLE_COLLECTORS"
  | disable => some "DISABLE_COLLECTORS"
  | format => some "FORMAT"
  | jsonLogs => none
  | once => none

def isSwitch (s : Setting) : Bool := s.valueName?.isNone

/-- A list grows with each occurrence of its option; other options may occur once. -/
def isList (s : Setting) : Bool := s = enable || s = disable

def environmentName? : Setting → Option String
  | agentId => some "DRM_AGENT_ID"
  | sysPath => some "DRM_AGENT_SYS_PATH"
  | collectInterval => some "DRM_AGENT_COLLECT_INTERVAL_MS"
  | collectTimeout => some "DRM_AGENT_COLLECT_TIMEOUT_MS"
  | enable => some "DRM_AGENT_ENABLE_COLLECTORS"
  | disable => some "DRM_AGENT_DISABLE_COLLECTORS"
  | format => some "DRM_AGENT_FORMAT"
  | jsonLogs => some "DRM_AGENT_JSON_LOGS"
  | once => none

/-- The name of the option's value as it stands behind the option. -/
def valueMark (s : Setting) : String :=
  match s.valueName? with
  | some value => " <" ++ value ++ ">"
  | none => ""

/-- The option as messages write it, with its value's name. -/
def usage (s : Setting) : String := "--" ++ s.option ++ s.valueMark

/-- The words that the setting takes, where it takes only these. -/
def choices : Setting → List String
  | format => ["text", "json"]
  | jsonLogs => ["true", "false"]
  | _ => []

end Setting

/-- What a long option stands for: a setting, or a text to be printed. -/
inductive Flag where
  | setting (s : Setting)
  | help
  | version
deriving DecidableEq

namespace Flag

def all : List Flag := Setting.all.map setting ++ [help, version]

/-- The option's name, without its dashes. -/
def name : Flag → String
  | setting s => s.option
  | help => "help"
  | version => "version"

def usage : Flag → String
  | setting s => s.usage
  | f => "--" ++ f.name

end Flag

end CardTelemetry
