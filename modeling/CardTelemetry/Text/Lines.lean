/-!
# Lines

A line ends at a newline, and a carriage return just before that newline belongs
to the ending. Text after the last newline is a line of its own unless it is
empty, and keeps its carriage return.
-/

namespace CardTelemetry.Text

/-- A line without the carriage return at its end, if it has one. -/
def dropReturn (line : List Char) : List Char :=
  if line.getLast? = some '\r' then line.dropLast else line

/-- The lines of a text, without their endings. -/
def lines (s : List Char) : List (List Char) :=
  let pieces := s.splitOn '\n'
  let ended := pieces.dropLast.map dropReturn
  match pieces.getLast? with
  | some (c :: rest) => ended ++ [c :: rest]
  | _ => ended

end CardTelemetry.Text
