import CardTelemetry.Text.Alphanumeric

/-!
# Patterns for values

A directive may ask for a value that fits a regular expression. A filter only has to know
whether a text is such a pattern, since what it filters has no values to compare. The
patterns are those that need no table of Unicode, so shorthand classes, word boundaries and
matching regardless of case are refused. A counted repetition is refused as well: its closing
brace would end the directive's field.
-/

namespace CardTelemetry.Log.Pattern

/-- What a literal is part of. -/
inductive Slot where
  | item
  | member
  /-- The upper end of a range of characters. -/
  | upper (lower : Char)
deriving DecidableEq

/-- What has just been read. -/
inductive Place where
  | item (repeatable : Bool)
  | parenthesis
  /-- A parenthesis and a question mark. -/
  | question
  /-- A parenthesis, a question mark and a `P`. -/
  | label
  | name (begun : Bool)
  /-- Flags, the last of them first, a minus sign among them included. -/
  | flags (read : List Char)
  | backslash (slot : Slot)
  /-- Part of a code point: how many digits are still to come, and the value so far. -/
  | code (slot : Slot) (left value : Nat)
  | bracket
  /-- The beginning of a class, with or without minus signs in it. -/
  | lead (dashes : Bool)
  | members
  /-- A member that a range may begin with. -/
  | lower (c : Char)
  | dash (lower : Char)
  /-- A member that is an operator if it comes twice. -/
  | single (c : Char)
deriving DecidableEq

/-- A pattern read so far, with the number of groups and classes that are open. -/
structure Reading where
  groups : Nat
  classes : Nat
  place : Place
deriving DecidableEq

namespace Reading

def start : Reading := ⟨0, 0, .item false⟩

/-- Nothing is left open. -/
def isComplete (r : Reading) : Bool :=
  match r.place with
  | .item _ => r.groups = 0
  | _ => false

def moveTo (r : Reading) (p : Place) : Option Reading := some { r with place := p }

def closeGroup (r : Reading) (repeatable : Bool) : Option Reading :=
  if r.groups = 0 then none else some ⟨r.groups - 1, r.classes, .item repeatable⟩

def openClass (r : Reading) : Option Reading := some ⟨r.groups, r.classes + 1, .bracket⟩

def closeClass (r : Reading) : Option Reading :=
  some ⟨r.groups, r.classes - 1, if r.classes ≤ 1 then .item true else .members⟩

def item (r : Reading) (repeatable : Bool) (c : Char) : Option Reading :=
  match c with
  | '(' => some ⟨r.groups + 1, r.classes, .parenthesis⟩
  | ')' => r.closeGroup true
  | '|' => r.moveTo (.item false)
  | '[' => r.openClass
  | '*' | '+' | '?' => if repeatable then r.moveTo (.item true) else none
  | '\x7b' => none
  | '\\' => r.moveTo (.backslash .item)
  | _ => r.moveTo (.item true)

/-- A literal; a range must not run downwards. -/
def literal (r : Reading) (slot : Slot) (c : Char) : Option Reading :=
  match slot with
  | .item => r.moveTo (.item true)
  | .member => r.moveTo (.lower c)
  | .upper lower => if lower ≤ c then r.moveTo .members else none

def member (r : Reading) (c : Char) : Option Reading :=
  match c with
  | '[' => r.openClass
  | ']' => r.closeClass
  | '&' | '-' | '~' => r.moveTo (.single c)
  | '\\' => r.moveTo (.backslash .member)
  | _ => r.moveTo (.lower c)

def afterLower (r : Reading) (lower c : Char) : Option Reading :=
  if c = '-' then r.moveTo (.dash lower) else r.member c

def afterDash (r : Reading) (lower c : Char) : Option Reading :=
  match c with
  | ']' => r.closeClass
  | '-' => r.moveTo .members
  | '\\' => r.moveTo (.backslash (.upper lower))
  | _ => r.literal (.upper lower) c

/-- A closing bracket is a member where it would close an empty class. -/
def afterLead (r : Reading) (dashes : Bool) (c : Char) : Option Reading :=
  if c = '-' then r.moveTo (.lead true)
  else if c = ']' && !dashes then r.moveTo .members
  else r.member c

/-- The character that a backslash and another character stand for. -/
def escaped? (c : Char) : Option Char :=
  match c with
  | 'a' => some '\x07'
  | 'f' => some '\x0c'
  | 'n' => some '\n'
  | 'r' => some '\r'
  | 't' => some '\t'
  | 'v' => some '\x0b'
  | _ =>
    if c.toNat ≤ 0x7F ∧ c.isAlphanum = false ∧ c ≠ '<' ∧ c ≠ '>' then some c else none

def afterBackslash (r : Reading) (slot : Slot) (c : Char) : Option Reading :=
  match c with
  | 'x' => r.moveTo (.code slot 2 0)
  | 'u' => r.moveTo (.code slot 4 0)
  | 'U' => r.moveTo (.code slot 8 0)
  | 'A' | 'z' => if slot = .item then r.moveTo (.item true) else none
  | _ => (escaped? c).bind (r.literal slot)

def hexDigit? (c : Char) : Option Nat :=
  if '0' ≤ c ∧ c ≤ '9' then some (c.toNat - '0'.toNat)
  else if 'a' ≤ c ∧ c ≤ 'f' then some (c.toNat - 'a'.toNat + 10)
  else if 'A' ≤ c ∧ c ≤ 'F' then some (c.toNat - 'A'.toNat + 10)
  else none

def codeDigit (r : Reading) (slot : Slot) (left value : Nat) (c : Char) : Option Reading :=
  (hexDigit? c).bind fun d =>
    let value := 16 * value + d
    if 1 < left then r.moveTo (.code slot (left - 1) value)
    else if h : value.isValidChar then r.literal slot (Char.ofNatAux value h)
    else none

def flagLetters : List Char := ['m', 's', 'u', 'x', 'R', 'U']

/-- A flag, or what ends the flags: a parenthesis, or a colon if they are those of a group. -/
def flag (r : Reading) (read : List Char) (c : Char) : Option Reading :=
  match c with
  | ')' => if read.isEmpty || read.head? = some '-' then none else r.closeGroup false
  | ':' => if read.head? = some '-' then none else r.moveTo (.item false)
  | _ =>
    let isFlag := flagLetters.contains c || c = '-' || (c = 'i' && read.contains '-')
    if isFlag && !read.contains c then r.moveTo (.flags (c :: read)) else none

def isNameChar (begun : Bool) (c : Char) : Bool :=
  c = '_' || (begun && (c = '.' || c = '[' || c = ']')) ||
    (Text.isAlphanumeric c && (begun || !c.isDigit))

def nameChar (r : Reading) (begun : Bool) (c : Char) : Option Reading :=
  if c = '>' then (if begun then r.moveTo (.item false) else none)
  else if isNameChar begun c then r.moveTo (.name true)
  else none

def afterQuestion (r : Reading) (c : Char) : Option Reading :=
  match c with
  | 'P' => r.moveTo .label
  | '<' => r.moveTo (.name false)
  | _ => r.flag [] c

/-- Reads one more character, if it can follow. -/
def step (r : Reading) (c : Char) : Option Reading :=
  match r.place with
  | .item repeatable => r.item repeatable c
  | .parenthesis => if c = '?' then r.moveTo .question else r.item false c
  | .question => r.afterQuestion c
  | .label => if c = '<' then r.moveTo (.name false) else none
  | .name begun => r.nameChar begun c
  | .flags read => r.flag read c
  | .backslash slot => r.afterBackslash slot c
  | .code slot left value => r.codeDigit slot left value c
  | .bracket => if c = '^' then r.moveTo (.lead false) else r.afterLead false c
  | .lead dashes => r.afterLead dashes c
  | .members => r.member c
  | .lower lower => r.afterLower lower c
  | .dash lower => r.afterDash lower c
  | .single d => if c = d then r.moveTo .members else r.afterLower d c

end Reading

end CardTelemetry.Log.Pattern

namespace CardTelemetry.Log

/-- A text is a pattern. -/
def isPattern (text : List Char) : Bool :=
  match text.foldlM Pattern.Reading.step Pattern.Reading.start with
  | some r => r.isComplete
  | none => false

end CardTelemetry.Log
