import CardTelemetry.Files.View

/-!
# File trees

A file tree held in memory: what stands at each place, a place being the names that
lead to it from the root. A path is resolved from a starting place name by name;
links are followed, at most forty on the way, and everything but the last name has
to be a directory.
-/

namespace CardTelemetry.Files

/-- The names from the root down to something. -/
abbrev Place := List Name

inductive Node where
  | directory
  | file (content : List UInt8)
  | link (target : Path)
deriving DecidableEq

/-- Nodes by place; the root is a directory and is not listed, and no place is listed twice. -/
structure Tree where
  nodes : List (Place × Node)
  distinct : nodes.Pairwise fun a b => a.1 ≠ b.1

namespace Tree

def empty : Tree := ⟨[], .nil⟩

def node? (t : Tree) (place : Place) : Option Node :=
  if place = [] then some .directory else t.nodes.lookup place

def namesAt (t : Tree) (place : Place) : List Name :=
  t.nodes.filterMap fun entry =>
    if entry.1 ≠ [] ∧ entry.1.dropLast = place then entry.1.getLast? else none

def nameLimit : Nat := 255

def pathLimit : Nat := 4096

def linkLimit : Nat := 40

/-- Where a path starts that is given at a place. -/
def start (place : Place) (p : Path) : Place := if p.isAbsolute then [] else place

/-- Walks names from a place. A link on the way, or a last one that is to be followed,
is handed to `follow` with the names still to go. -/
def walkNames (t : Tree) (followLast : Bool)
    (follow : Place → Path → List Name → Except Failure Place) :
    Place → List Name → Except Failure Place
  | place, [] => .ok place
  | place, n :: rest =>
    if n = Path.here then walkNames t followLast follow place rest
    else if n = Path.up then walkNames t followLast follow place.dropLast rest
    else if nameLimit < n.length then .error .nameTooLong
    else
      match t.node? (place ++ [n]) with
      | none => .error .noEntry
      | some .directory => walkNames t followLast follow (place ++ [n]) rest
      | some (.file _) => if rest = [] then .ok (place ++ [n]) else .error .notDirectory
      | some (.link target) =>
        if rest = [] ∧ !followLast then .ok (place ++ [n])
        else if target = [] then .error .noEntry
        else follow place target rest

/-- Walks names from a place through at most so many links. -/
def walk (t : Tree) (followLast : Bool) : Nat → Place → List Name → Except Failure Place
  | 0 => walkNames t followLast fun _ _ _ => .error .tooManyLinks
  | links + 1 =>
    walkNames t followLast fun place target rest =>
      walk t followLast links (start place target) (target.steps ++ rest)

def resolve (t : Tree) (followLast : Bool) (p : Path) : Except Failure Place :=
  if p.contains 0 then .error .nulInPath
  else if p = [] then .error .noEntry
  else if pathLimit ≤ p.length then .error .nameTooLong
  else walk t followLast linkLimit [] p.steps

def find (t : Tree) (followLast : Bool) (p : Path) : Except Failure (Place × Node) :=
  match resolve t followLast p with
  | .ok place =>
    match t.node? place with
    | some n => .ok (place, n)
    | none => .error .noEntry
  | .error f => .error f

def names (t : Tree) (p : Path) : Except Failure (List Name) :=
  match t.find true p with
  | .ok (place, .directory) => .ok (t.namesAt place)
  | .ok _ => .error .notDirectory
  | .error f => .error f

def content (t : Tree) (p : Path) : Except Failure (List UInt8) :=
  match t.find true p with
  | .ok (_, .file bytes) => .ok bytes
  | .ok _ => .error .isDirectory
  | .error f => .error f

def target (t : Tree) (p : Path) : Except Failure Path :=
  match t.find false p with
  | .ok (_, .link target) => .ok target
  | .ok _ => .error .invalidArgument
  | .error f => .error f

def isDirectory (t : Tree) (p : Path) : Except Failure Bool :=
  match t.find true p with
  | .ok (_, n) => .ok (n == .directory)
  | .error f => .error f

theorem namesAt_nodup (t : Tree) (place : Place) : (t.namesAt place).Nodup := by
  apply t.distinct.filterMap
  intro a b hab m hm n hn heq
  rw [Option.ite_none_right_eq_some] at hm hn
  obtain ⟨above, ha⟩ := List.getLast?_eq_some_iff.mp hm.2
  obtain ⟨above', hb⟩ := List.getLast?_eq_some_iff.mp hn.2
  have habove : above = above' := by
    have h := hm.1.2.trans hn.1.2.symm
    rwa [ha, hb, List.dropLast_concat, List.dropLast_concat] at h
  exact hab (by rw [ha, hb, habove, heq])

theorem names_nodup (t : Tree) {p : Path} {ns : List Name} (h : t.names p = .ok ns) :
    ns.Nodup := by
  unfold names at h
  split at h
  · cases h; exact namesAt_nodup t _
  · cases h
  · cases h

def view (t : Tree) : View where
  names := t.names
  content := t.content
  target := t.target
  isDirectory := t.isDirectory
  distinct := t.names_nodup

end Tree

end CardTelemetry.Files
