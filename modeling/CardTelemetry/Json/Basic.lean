import CardTelemetry.Binary64.Decimal

/-!
# JSON texts

A value and its compact text: no blanks, members in the order given. In a string
the quote, the backslash and the control characters are escaped, the common ones by
a letter and the others by four hexadecimal digits; everything else is written as
it is.
-/

namespace CardTelemetry

inductive Json where
  | null
  | natural (n : Nat)
  | real (x : Binary64)
  | text (s : String)
  | array (items : List Json)
  | object (members : List (String × Json))

namespace Json

def hexDigit (n : Nat) : Char := Nat.digitChar n

def escape (c : Char) : List Char :=
  if c = '"' then ['\\', '"']
  else if c = '\\' then ['\\', '\\']
  else if c = '\x08' then ['\\', 'b']
  else if c = '\x0c' then ['\\', 'f']
  else if c = '\n' then ['\\', 'n']
  else if c = '\r' then ['\\', 'r']
  else if c = '\t' then ['\\', 't']
  else if c.toNat < 0x20 then
    ['\\', 'u', '0', '0', hexDigit (c.toNat / 16), hexDigit (c.toNat % 16)]
  else [c]

def quote (s : String) : List Char := '"' :: (s.toList.flatMap escape ++ ['"'])

mutual

def write : Json → List Char
  | .null => "null".toList
  | .natural n => Text.decimal n
  | .real x => x.json
  | .text s => quote s
  | .array items => '[' :: (writeItems items ++ [']'])
  | .object members => '{' :: (writeMembers members ++ ['}'])

def writeItems : List Json → List Char
  | [] => []
  | [item] => write item
  | item :: rest => write item ++ ',' :: writeItems rest

def writeMembers : List (String × Json) → List Char
  | [] => []
  | [(key, item)] => quote key ++ ':' :: write item
  | (key, item) :: rest => quote key ++ ':' :: (write item ++ ',' :: writeMembers rest)

end

def render (j : Json) : String := String.ofList j.write

end Json

end CardTelemetry
