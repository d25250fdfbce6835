/-!
# Text for terminals

Messages mark the parts that a terminal would highlight with style codes, and what is
written has no codes: a machine that follows the control sequences leaves out whatever
belongs to one, and with it all other control characters but the tab, the newline, the form
feed and the carriage return. Text from outside may hold sequences of its own, also
unfinished ones; a style code ends these, so they reach no further than their part.
-/

namespace CardTelemetry.Text.Terminal

/-- Where in a control sequence a character stands. -/
inductive State where
  | ground
  | escape
  | intermediate
  /-- Behind an escape character and an opening bracket. -/
  | sequence
  /-- In a command to the terminal, as for its title. -/
  | command
  /-- In a control string, which holds data for a device. -/
  | controlString
deriving DecidableEq

def escapeCode : Nat := 0x1B

def isCancel (n : Nat) : Bool := n = 0x18 || n = 0x1A

def isPrintable (n : Nat) : Bool := decide (0x20 ≤ n) && decide (n ≤ 0x7E)

/-- A control character that is text all the same. -/
def isSpacing (n : Nat) : Bool := n = 0x09 || n = 0x0A || n = 0x0C || n = 0x0D

def isBeyondAscii (n : Nat) : Bool := decide (0x7F < n)

/-- The byte `9C`, which ends a control string, is among the UTF-8 bytes of a character. -/
def hasTerminator (c : Char) : Bool :=
  (String.ofList [c]).toByteArray.data.toList.contains 0x9C

/-- The state behind an escape character and one that is printable. -/
def afterEscape (n : Nat) : State :=
  if n ≤ 0x2F then .intermediate
  else if n = 0x5B then .sequence
  else if n = 0x5D then .command
  else if n = 0x50 || n = 0x58 || n = 0x5E || n = 0x5F then .controlString
  else .ground

/-- The state behind a character that is left out. -/
def next (s : State) (c : Char) : State :=
  let n := c.toNat
  if n = escapeCode then .escape
  else if isCancel n then .ground
  else
    match s with
    | .ground => .ground
    | .escape => if isPrintable n then afterEscape n else .escape
    | .intermediate => if isPrintable n && decide (0x30 ≤ n) then .ground else .intermediate
    | .sequence => if isPrintable n && decide (0x40 ≤ n) then .ground else .sequence
    | .command => if n = 0x07 then .ground else .command
    | .controlString => if hasTerminator c then .ground else .controlString

/-- Spacing is text in this state. -/
def State.keepsSpacing (s : State) : Bool := s != .command && s != .controlString

/-- The characters of a text that are shown. After a character that is shown (`showing`) the
printable ones that follow are shown as well, even inside a sequence. -/
def shown (s : State) (showing : Bool) : List Char → List Char
  | [] => []
  | c :: rest =>
    let n := c.toNat
    if (s = .ground || showing) && isPrintable n then c :: shown s true rest
    else if (s = .ground || showing) && isBeyondAscii n then c :: shown .ground true rest
    else if s.keepsSpacing && isSpacing n then c :: shown s true rest
    else shown (next s c) false rest

def plain (s : String) : String := String.ofList (shown .ground false s.toList)

def marked (s : String) : String := "\x1b[1m" ++ s ++ "\x1b[0m"

/-- A text from outside as a message shows it. -/
def cited (s : String) : String := plain (marked s)

end CardTelemetry.Text.Terminal
