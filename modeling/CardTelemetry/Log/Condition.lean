import CardTelemetry.Log.Pattern

/-!
# Conditions on values

A directive may put a condition on the value of a field: a number that the value has to
equal, or a pattern that it has to fit. Numbers without a sign or with a minus sign are also
patterns, so only those with a plus sign need a rule of their own.
-/

namespace CardTelemetry.Log.Condition

def isDigits (s : List Char) : Bool := !s.isEmpty && s.all Char.isDigit

def withoutSign : List Char → List Char
  | '+' :: rest => rest
  | '-' :: rest => rest
  | s => s

/-- Nothing, or the exponent of a number. -/
def isExponent : List Char → Bool
  | [] => true
  | e :: rest => (e = 'e' || e = 'E') && isDigits (withoutSign rest)

/-- A number without its sign, with digits before or behind the point. -/
def isMagnitude (s : List Char) : Bool :=
  let whole := s.takeWhile Char.isDigit
  match s.dropWhile Char.isDigit with
  | '.' :: rest =>
    !(whole ++ rest.takeWhile Char.isDigit).isEmpty && isExponent (rest.dropWhile Char.isDigit)
  | rest => !whole.isEmpty && isExponent rest

/-- The names of what is no finite number, in letters of either case. -/
def isSpecial (s : List Char) : Bool :=
  ["inf", "infinity", "nan"].contains (String.ofList (s.map Char.toLower))

/-- A text is a condition that a directive can put on a value. -/
def isValid : List Char → Bool
  | '+' :: rest => isMagnitude rest || isSpecial rest
  | s => isPattern s

end CardTelemetry.Log.Condition
