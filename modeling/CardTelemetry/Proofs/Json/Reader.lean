import CardTelemetry.Proofs.Json.Number

/-!
# A reader of JSON documents

The reader goes through a text once, from left to right, without knowing who wrote it. It keeps how
far a token is scanned and which arrays and objects are open, and each token that is complete takes
the document one step further. Members are given as they stand, with repeated keys. A text that is
not a document is refused: control characters and single halves of surrogate pairs in texts, zeros
in front of numbers, commas too many and whatever stands behind the document.
-/

namespace CardTelemetry.Json

/-- What a document says. -/
inductive Value where
  | null
  | boolean (b : Bool)
  | number (d : Decimal)
  | text (s : String)
  | array (items : List Value)
  | object (members : List (String × Value))

inductive Token where
  | openArray
  | closeArray
  | openObject
  | closeObject
  | colon
  | comma
  | text (s : String)
  | scalar (v : Value)

/-! ### Tokens in their order -/

/-- What is open around a value: the items before it, or the members before it and its name. -/
inductive Frame where
  | array (items : List Value)
  | object (members : List (String × Value)) (name : String)

/-- What the tokens so far leave to come, inside of what is open. -/
inductive Parse where
  | value (stack : List Frame)
  | firstItem (stack : List Frame)
  | afterItem (stack : List Frame) (items : List Value)
  | firstKey (stack : List Frame)
  | key (stack : List Frame) (members : List (String × Value))
  | colon (stack : List Frame) (members : List (String × Value)) (name : String)
  | afterMember (stack : List Frame) (members : List (String × Value))
  | done (v : Value)

namespace Parse

/-- Puts a complete value where it stands. -/
def deliver (v : Value) : List Frame → Parse
  | [] => done v
  | .array items :: stack => afterItem stack (items ++ [v])
  | .object members name :: stack => afterMember stack (members ++ [(name, v)])

/-- What is open around the value that may come next. -/
def around : Parse → Option (List Frame)
  | value stack => some stack
  | firstItem stack => some (.array [] :: stack)
  | _ => none

/-- What is open around the key that may come next, and the members before it. -/
def aroundKey : Parse → Option (List Frame × List (String × Value))
  | firstKey stack => some (stack, [])
  | key stack members => some (stack, members)
  | _ => none

def take (p : Parse) : Token → Option Parse
  | .openArray => p.around.map firstItem
  | .openObject => p.around.map firstKey
  | .scalar v => p.around.map (deliver v)
  | .text s =>
    match p.aroundKey with
    | some (stack, members) => some (colon stack members s)
    | none => p.around.map (deliver (.text s))
  | .closeArray =>
    match p with
    | firstItem stack => some (deliver (.array []) stack)
    | afterItem stack items => some (deliver (.array items) stack)
    | _ => none
  | .closeObject =>
    match p with
    | firstKey stack => some (deliver (.object []) stack)
    | afterMember stack members => some (deliver (.object members) stack)
    | _ => none
  | .colon =>
    match p with
    | colon stack members name => some (value (.object members name :: stack))
    | _ => none
  | .comma =>
    match p with
    | afterItem stack items => some (value (.array items :: stack))
    | afterMember stack members => some (key stack members)
    | _ => none

section Around

variable {p : Parse} {stack : List Frame}

theorem take_openArray (h : p.around = some stack) :
    p.take .openArray = some (firstItem stack) := by
  rw [take, h, Option.map_some]

theorem take_openObject (h : p.around = some stack) :
    p.take .openObject = some (firstKey stack) := by
  rw [take, h, Option.map_some]

theorem take_scalar (v : Value) (h : p.around = some stack) :
    p.take (.scalar v) = some (deliver v stack) := by
  rw [take, h, Option.map_some]

/-- No key may come where a value may. -/
theorem take_text (s : String) (h : p.around = some stack) :
    p.take (.text s) = some (deliver (.text s) stack) := by
  cases p with
  | value | firstItem => simp [take, aroundKey, h]
  | _ => cases h

theorem take_key (s : String) {members : List (String × Value)}
    (h : p.aroundKey = some (stack, members)) :
    p.take (.text s) = some (colon stack members s) := by
  rw [take, h]

end Around

end Parse

/-! ### Characters of tokens -/

def isBlank (c : Char) : Bool := c == ' ' || c == '\t' || c == '\n' || c == '\r'

/-- The token that a character is alone. -/
def mark? : Char → Option Token
  | '[' => some .openArray
  | ']' => some .closeArray
  | '{' => some .openObject
  | '}' => some .closeObject
  | ':' => some .colon
  | ',' => some .comma
  | _ => none

/-- The character ends a word that stands before it. -/
def endsWord (c : Char) : Bool := isBlank c || c == '"' || (mark? c).isSome

def scalar? (word : List Char) : Option Value :=
  match readNumber word with
  | some d => some (.number d)
  | none =>
    if word = "null".toList then some .null
    else if word = "true".toList then some (.boolean true)
    else if word = "false".toList then some (.boolean false)
    else none

/-- What a backslash and this character stand for. -/
def unescape? : Char → Option Char
  | '"' => some '"'
  | '\\' => some '\\'
  | '/' => some '/'
  | 'b' => some '\x08'
  | 'f' => some '\x0c'
  | 'n' => some '\n'
  | 'r' => some '\r'
  | 't' => some '\t'
  | _ => none

def hexValue? (c : Char) : Option Nat :=
  if c.isDigit then some (c.toNat - '0'.toNat)
  else if 'a' ≤ c ∧ c ≤ 'f' then some (c.toNat - 'a'.toNat + 10)
  else if 'A' ≤ c ∧ c ≤ 'F' then some (c.toNat - 'A'.toNat + 10)
  else none

def isHighHalf (unit : Nat) : Bool := decide (0xD800 ≤ unit ∧ unit < 0xDC00)

def isLowHalf (unit : Nat) : Bool := decide (0xDC00 ≤ unit ∧ unit < 0xE000)

/-- How far a token is scanned. Of a text there are the characters so far, and the high half of a
surrogate pair if its low half has to follow. -/
inductive Scan where
  | between
  | word (part : List Char)
  | text (part : List Char) (high : Option Nat)
  | escape (part : List Char) (high : Option Nat)
  | hex (part : List Char) (high : Option Nat) (digitsLeft value : Nat)

/-- The text behind an escaped UTF-16 unit. -/
def Scan.afterUnit (part : List Char) (high : Option Nat) (unit : Nat) : Option Scan :=
  match high with
  | none =>
    if isHighHalf unit then some (text part (some unit))
    else if isLowHalf unit then none
    else some (text (part ++ [Char.ofNat unit]) none)
  | some h =>
    if isLowHalf unit then
      some (text (part ++ [Char.ofNat (0x10000 + 0x400 * (h - 0xD800) + (unit - 0xDC00))]) none)
    else none

/-! ### The reader -/

structure State where
  scan : Scan
  parse : Parse

namespace State

/-- A character that no token is scanned before. -/
def start (p : Parse) (c : Char) : Option State :=
  if isBlank c then some ⟨.between, p⟩
  else if c = '"' then some ⟨.text [] none, p⟩
  else
    match mark? c with
    | some t => (p.take t).map fun q => ⟨.between, q⟩
    | none => some ⟨.word [c], p⟩

def step (s : State) (c : Char) : Option State :=
  match s.scan with
  | .between => start s.parse c
  | .word part =>
    if endsWord c then
      (scalar? part).bind fun v => (s.parse.take (.scalar v)).bind fun p => start p c
    else some ⟨.word (part ++ [c]), s.parse⟩
  | .text part high =>
    if c = '\\' then some ⟨.escape part high, s.parse⟩
    else if high.isSome ∨ c.toNat < 0x20 then none
    else if c = '"' then
      (s.parse.take (.text (String.ofList part))).map fun p => ⟨.between, p⟩
    else some ⟨.text (part ++ [c]) none, s.parse⟩
  | .escape part high =>
    if c = 'u' then some ⟨.hex part high 4 0, s.parse⟩
    else if high.isSome then none
    else (unescape? c).map fun d => ⟨.text (part ++ [d]) none, s.parse⟩
  | .hex part high digitsLeft value =>
    (hexValue? c).bind fun digit =>
      if 1 < digitsLeft then some ⟨.hex part high (digitsLeft - 1) (16 * value + digit), s.parse⟩
      else (Scan.afterUnit part high (16 * value + digit)).map fun scan => ⟨scan, s.parse⟩

def run (s : State) (cs : List Char) : Option State := cs.foldlM step s

/-- The document, where it is complete. -/
def document? : State → Option Value
  | ⟨.between, .done v⟩ => some v
  | _ => none

end State

/-- Reads a document. The blank behind it ends a word. -/
def read (s : String) : Option Value :=
  (State.run ⟨.between, .value []⟩ (s.toList ++ [' '])).bind State.document?

example : read "[\"\\ud834\\udd1e\", -1.50e1]" =
    some (.array [.text "𝄞", .number ⟨true, 150, -1⟩]) := by
  cbv

example : ["[1,]", "[01]", "1 2", "\"\t\"", "\"\\ud834\"", "[\"a\"", "NaN"].all
    (fun s => (read s).isNone) = true := by
  decide +kernel

/-! ### Runs of the reader -/

namespace State

variable {s t : State} {p : Parse} {cs : List Char}

theorem run_cons (s : State) (c : Char) (cs : List Char) :
    run s (c :: cs) = (step s c).bind fun t => run t cs := rfl

theorem run_append (s : State) (cs cs' : List Char) :
    run s (cs ++ cs') = (run s cs).bind fun t => run t cs' :=
  List.foldlM_append

theorem run_append_of_eq (h : run s cs = some t) (cs' : List Char) :
    run s (cs ++ cs') = run t cs' := by
  rw [run_append, h, Option.bind_some]

/-- A mark is taken where it stands. -/
theorem run_mark {c : Char} {k : Token} {q : Parse} (hblank : isBlank c = false)
    (hmark : mark? c = some k) (h : p.take k = some q) (rest : List Char) :
    run ⟨.between, p⟩ (c :: rest) = run ⟨.between, q⟩ rest := by
  have hquote : c ≠ '"' := by
    rintro rfl
    cases hmark
  rw [run_cons, step, start, hblank, if_neg Bool.false_ne_true, if_neg hquote, hmark]
  simp only [h, Option.map_some, Option.bind_some]

end State

end CardTelemetry.Json
