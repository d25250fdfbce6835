import CardTelemetry.Json.Basic
import CardTelemetry.Log.Event

/-!
# Log lines

An event is written as a line of text, with its values behind the message, or as a JSON
object with the message and the values as its fields.
-/

namespace CardTelemetry.Log

def Value.text : Value → String
  | .shown s => s
  | .quoted s => "\"" ++ s ++ "\""
  | .number n => n.repr

def Value.json : Value → Json
  | .shown s => .text s
  | .quoted s => .text s
  | .number n => .natural n

/-- The name of a level, set flush right in five columns. -/
def Level.column (l : Level) : String :=
  String.ofList (List.replicate (5 - l.name.length) ' ') ++ l.name

/-- An event as text, without its newline. -/
def textLine (time : String) (e : Event) : String :=
  time ++ " " ++ e.level.column ++ " " ++ e.target ++ ": " ++ e.message ++
    String.join (e.fields.map fun f => " " ++ f.1 ++ "=" ++ f.2.text)

/-- An event as JSON, without its newline. -/
def jsonLine (time : String) (e : Event) : String :=
  Json.render <| .object [("timestamp", .text time), ("level", .text e.level.name),
    ("fields", .object (("message", .text e.message) :: e.fields.map fun f => (f.1, f.2.json))),
    ("target", .text e.target)]

end CardTelemetry.Log
