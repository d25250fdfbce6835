/-!
# Similar words

How alike two words are, from 0 to 1, by the Jaro measure. Characters agree if they are
equal and stand less than half the longer word apart; each takes the first partner that is
still free. The measure is the mean of three shares: of agreeing characters in the one word,
of agreeing characters in the other, and of those among them that come in the same order,
where two out of order count as one.
-/

namespace CardTelemetry.Text.Similarity

/-- A word's characters, each with a mark on those that have a partner. -/
abbrev Marked := List (Char × Bool)

/-- Marks the first free character equal to `c` from place `low` on and before place `high`;
the list begins at place `place`. -/
def claim (low high : Nat) (c : Char) : Nat → Marked → Option Marked
  | _, [] => none
  | place, (d, taken) :: rest =>
    if low ≤ place ∧ place < high ∧ taken = false ∧ d = c then some ((d, true) :: rest)
    else (claim low high c (place + 1) rest).map fun others => (d, taken) :: others

/-- The characters of one word that find a partner at most `reach` places away, in order, and
the other word with its partners marked. -/
def partners (reach : Nat) : Nat → List Char → Marked → List Char × Marked
  | _, [], other => ([], other)
  | place, c :: rest, other =>
    match claim (place - reach) (place + reach + 1) c 0 other with
    | none => partners reach (place + 1) rest other
    | some marked =>
      let (found, other) := partners reach (place + 1) rest marked
      (c :: found, other)

/-- How far apart agreeing characters may stand in words of these lengths. -/
def reach (a b : Nat) : Nat := max a b / 2 - 1

def similarity (a b : String) : Float :=
  let (found, other) :=
    partners (reach a.length b.length) 0 a.toList (b.toList.map fun c => (c, false))
  let partnered := (other.filter Prod.snd).map Prod.fst
  let moved := ((found.zip partnered).filter fun p => p.1 != p.2).length / 2
  let agreeing := found.length.toFloat
  if a.isEmpty && b.isEmpty then 1
  else if found.isEmpty then 0
  else
    (agreeing / a.length.toFloat + agreeing / b.length.toFloat +
      (found.length - moved).toFloat / agreeing) / 3

/-- Words that are alike to a greater degree than this are worth a hint. -/
def threshold : Float := 0.7

/-- Keeps the word that is more alike, the later one of two that are equally so. -/
def better (word : String) (best : Option String) (candidate : String) : Option String :=
  if threshold < similarity word candidate then
    match best with
    | none => some candidate
    | some b => if similarity word candidate < similarity word b then some b else some candidate
  else best

/-- The candidate most like a word, if one is enough like it. -/
def closest? (word : String) (candidates : List String) : Option String :=
  candidates.foldl (better word) none

end CardTelemetry.Text.Similarity
