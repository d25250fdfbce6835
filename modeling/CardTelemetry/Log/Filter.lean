import CardTelemetry.Log.Directive
import CardTelemetry.Text.Order

/-!
# Log filters

A filter is a list of directives, written with commas between them. Of those that fit an
event the most specific one decides: the one with the longest target, of these one that
names a field before one that does not, of these the one whose field comes last, and of
equals the last. An event that none fits is not logged. A filter without directives lets
errors through, and what is no filter at all counts as `info`.
-/

namespace CardTelemetry.Log

abbrev Filter := List Directive

namespace Filter

def info : Filter := [⟨"", .events, some .info⟩]

def errorsOnly : Filter := [⟨"", .events, some .error⟩]

/-- All directives of a text, if each piece between commas is one. -/
def directives? (pieces : List (List Char)) : Option Filter := pieces.mapM Directive.ofText?

/-- The filter of a text; empty pieces of it do not count. -/
def parse? (text : String) : Option Filter :=
  match (text.toList.splitOn ',').filter fun piece => !piece.isEmpty with
  | [] => some errorsOnly
  | pieces => directives? pieces

/-- The filter that a variable's text stands for; without the variable it is `info`. -/
def ofText : Option String → Filter
  | none => info
  | some text => (parse? text).getD info

/-- A directive decides before another, as far as their scopes tell. -/
def scopeBefore : Scope → Scope → Bool
  | .field a, .field b => Text.before b a
  | .field _, _ => true
  | _, _ => false

/-- A directive decides before another that fits the same event. -/
def decidesBefore (a b : Directive) : Bool :=
  decide (b.target.length < a.target.length) ||
    (a.target.length = b.target.length && scopeBefore a.scope b.scope)

/-- The directive that decides about an event. -/
def deciding (f : Filter) (e : Event) : Option Directive :=
  (f.filter fun d => d.fits e).foldl
    (fun best d =>
      match best with
      | none => some d
      | some b => if decidesBefore b d then some b else some d)
    none

def allows (f : Filter) (e : Event) : Bool :=
  match f.deciding e with
  | some ⟨_, _, some level⟩ => decide (e.level.rank ≤ level.rank)
  | _ => false

end Filter

end CardTelemetry.Log
