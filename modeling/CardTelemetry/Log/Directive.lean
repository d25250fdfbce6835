import CardTelemetry.Log.Condition
import CardTelemetry.Log.Event
import CardTelemetry.Text.Blank
import CardTelemetry.Text.Numeral
import CardTelemetry.Text.Utf8

/-!
# Directives

A directive lets events through up to a level: those whose target begins with its own, and
of these, if it names a field, those that have that field. Directives can also be about
spans, which enclose events and have names; the agent has none, so these decide nothing.

In writing a directive is a level, or a target and a level after an equals sign, with a
scope in brackets between the two: the name of a span, a field in braces, or both. Without a
level it lets everything through. Blanks around a directive do not count when its parts are
measured, but they are still there when the parts are cut out; so a blank in front moves
every part, and one at the end spoils the level.
-/

namespace CardTelemetry.Log

/-- What a directive is about within its target. -/
inductive Scope where
  | events
  /-- Events that have this field. -/
  | field (name : String)
  | spans
deriving DecidableEq

structure Directive where
  target : String
  scope : Scope
  level : Option Level
deriving DecidableEq

namespace Directive

/-- The level of a number, where zero lets nothing through. -/
def levelOfNumber : Nat → Option Level
  | 0 => none
  | 1 => some .error
  | 2 => some .warn
  | 3 => some .info
  | 4 => some .debug
  | _ => some .trace

/-- The level of a word, in letters of either case, or of a numeral up to five. -/
def levelOf? (word : List Char) : Option (Option Level) :=
  match Text.readNumeral 6 word with
  | .ok n => some (levelOfNumber n)
  | .error _ =>
    match String.ofList (word.map Char.toLower) with
    | "off" => some none
    | "error" => some (some .error)
    | "warn" => some (some .warn)
    | "info" => some (some .info)
    | "debug" => some (some .debug)
    | "trace" => some (some .trace)
    | _ => none

/-- The scope of a field; with a condition on its value it is one of spans. -/
def scopeOfField? (text : String) : Option Scope :=
  match text.toList.splitOn '=' with
  | [] => none
  | [name] => if name.isEmpty then none else some (.field (String.ofList name))
  | _ :: value :: _ => if Condition.isValid value then some .spans else none

def width (s : List Char) : Nat := (String.ofList s).utf8ByteSize

/-- What is left of the bytes behind a part and the mark that ends it. -/
def behind (part : List Char) (bytes : List UInt8) : List UInt8 := bytes.drop (width part + 1)

def cut (part : List Char) (bytes : List UInt8) : String :=
  Text.Utf8.lossy (bytes.take (width part))

/-- Reads the level at the end of a directive. -/
def readLevel (target : String) (scope : Scope) (bytes : List UInt8) : Option Directive :=
  if bytes.isEmpty then some ⟨target, scope, some .trace⟩
  else (levelOf? (Text.Utf8.lossy bytes).toList).map fun level => ⟨target, scope, level⟩

/-- Reads on behind the scope. -/
def readEnd (target : String) (scope : Scope) (bytes : List UInt8) :
    List Char → Option Directive
  | [] => some ⟨target, scope, some .trace⟩
  | '=' :: _ => readLevel target scope (bytes.drop 1)
  | _ => none

/-- Reads a field behind its opening brace. -/
def readField (target span : String) (text : List Char) (bytes : List UInt8) :
    Option Directive :=
  let field := text.takeWhile fun c => c != '\x7d'
  match text.dropWhile fun c => c != '\x7d' with
  | _ :: ']' :: rest =>
    (scopeOfField? (cut field bytes)).bind fun scope =>
      readEnd target (if span = "" then scope else .spans) ((behind field bytes).drop 1) rest
  | _ => none

/-- Reads a scope behind its opening bracket. -/
def readScope (target : String) (text : List Char) (bytes : List UInt8) : Option Directive :=
  let isMark : Char → Bool := fun c => c == ']' || c == '\x7b'
  let span := text.takeWhile fun c => !isMark c
  match text.dropWhile fun c => !isMark c with
  | ']' :: rest => readEnd target .spans (behind span bytes) rest
  | _ :: rest => readField target (cut span bytes) rest (behind span bytes)
  | [] => none

/-- A character that a target or a level may begin with. -/
def begins (c : Char) : Bool :=
  c == '-' || c == ':' || c == '_' || Text.isAlphanumeric c

/-- Reads a directive that does not begin with its scope, from its text with and without the
blanks around it. -/
def readNamed (text whole : List Char) (bytes : List UInt8) : Option Directive :=
  let isMark : Char → Bool := fun c => c == '=' || c == '['
  let name := text.takeWhile fun c => !isMark c
  match text.dropWhile fun c => !isMark c with
  | [] =>
    match levelOf? whole with
    | some level => some ⟨"", .events, level⟩
    | none => some ⟨String.ofList whole, .events, some .trace⟩
  | '=' :: _ => readLevel (cut name bytes) .events (behind name bytes)
  | _ :: rest => readScope (cut name bytes) rest (behind name bytes)

/-- The directive that a text stands for. -/
def ofText? (whole : List Char) : Option Directive :=
  let bytes := Text.Utf8.bytes (String.ofList whole)
  match Text.trim whole with
  | [] => none
  | '[' :: rest => readScope "" rest (bytes.drop 1)
  | c :: rest => if begins c then readNamed (c :: rest) whole bytes else none

/-- The directive is about an event. -/
def fits (d : Directive) (e : Event) : Bool :=
  d.target.toList.isPrefixOf e.target.toList &&
    match d.scope with
    | .events => true
    | .field name => e.fieldNames.contains name
    | .spans => false

end Directive

end CardTelemetry.Log
