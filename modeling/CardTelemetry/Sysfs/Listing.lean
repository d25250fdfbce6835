import CardTelemetry.Files.View
import CardTelemetry.Job
import CardTelemetry.Text.Numeral
import CardTelemetry.Text.Order

/-!
# Which entries are cards and connectors

A card is an entry of `class/drm` named `card` and a number of 32 bits. Cards come in
the order of their numbers, and of their names where numbers are equal. The entries of
a card's directory that are named after the card may be its connectors.
-/

namespace CardTelemetry.Sysfs

open Files (Name Path View)

def cardNumber? (name : String) : Option Nat :=
  match "card".toList.isPrefixOf? name.toList with
  | some (c :: rest) =>
    if (c :: rest).all fun d => (Text.digit? d).isSome then
      match Text.readNumeral UInt32.size (c :: rest) with
      | .ok n => some n
      | .error _ => none
    else none
  | _ => none

/-- An entry of a directory: the name it is shown by, and its path. -/
structure Entry where
  name : String
  path : Path
deriving DecidableEq

def Entry.ofName (directory : Path) (n : Name) : Entry := ⟨Text.Utf8.lossy n, directory.join n⟩

def classDirectory (root : Path) : Path :=
  (root.join (Path.ofString "class")).join (Path.ofString "drm")

def entries (v : View) (directory : Path) : Except Fault (List Entry) :=
  match v.names directory with
  | .ok names => .ok (names.map (Entry.ofName directory))
  | .error f => .error (.unreadable directory.text f)

abbrev Numbered := Nat × Entry

def numbered? (e : Entry) : Option Numbered := (cardNumber? e.name).map fun n => (n, e)

def Numbered.notAfter (a b : Numbered) : Bool :=
  decide (a.1 < b.1) || (a.1 == b.1 && Text.notAfter a.2.name b.2.name)

/-- The cards among some entries, in order. -/
def cardsAmong (es : List Entry) : List Entry :=
  ((es.filterMap numbered?).mergeSort Numbered.notAfter).map Prod.snd

def cardEntries (v : View) (root : Path) : Except Fault (List Entry) :=
  (entries v (classDirectory root)).map cardsAmong

/-- An entry is named after a card. -/
def belongsTo (card : String) (e : Entry) : Bool :=
  (card.toList ++ ['-']).isPrefixOf e.name.toList

end CardTelemetry.Sysfs
