import CardTelemetry.Files.Failure
import CardTelemetry.Files.Path

/-!
# Views of a file system

A view answers the four questions that a reader asks of a file system: what a
directory lists, what a file holds, where a link points, and whether a path leads to
a directory. Everything read from files is a function of a view. No directory lists
a name twice.
-/

namespace CardTelemetry.Files

structure View where
  /-- The names in a directory, in no particular order. -/
  names : Path → Except Failure (List Name)
  content : Path → Except Failure (List UInt8)
  /-- The target of a link as it is written. -/
  target : Path → Except Failure Path
  isDirectory : Path → Except Failure Bool
  distinct : ∀ {p : Path} {ns : List Name}, names p = .ok ns → ns.Nodup

/-- A file's content as text; content that is not UTF-8 is a failure. -/
def View.text (v : View) (p : Path) : Except Failure String :=
  match v.content p with
  | .ok bytes =>
    match Text.Utf8.strict? bytes with
    | some s => .ok s
    | none => .error .invalidText
  | .error f => .error f

end CardTelemetry.Files
