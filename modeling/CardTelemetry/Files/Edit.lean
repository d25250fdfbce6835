import CardTelemetry.Files.Tree

/-!
# Changing a file tree

Paths are taken from a base place. Directories missing on the way are made, and links
on the way are followed. Writing to a link writes to the file it leads to.
-/

namespace CardTelemetry.Files.Tree

/-- Puts a node at a place, in the stead of what was there. -/
def put (t : Tree) (place : Place) (n : Node) : Tree where
  nodes := t.nodes.filter (fun entry => entry.1 != place) ++ [(place, n)]
  distinct := by
    rw [List.pairwise_append]
    refine ⟨t.distinct.filter _, List.pairwise_singleton _ _, ?_⟩
    simp

/-- Leaves out a place and everything below it. -/
def prune (t : Tree) (place : Place) : Tree where
  nodes := t.nodes.filter fun entry => !(place.isPrefixOf entry.1)
  distinct := t.distinct.filter _

/-- Makes the directories that the names lead through, and gives the place of the last. -/
def reach (t : Tree) (place : Place) : List Name → Tree × Place
  | [] => (t, place)
  | n :: rest =>
    match walk t true linkLimit place [n] with
    | .ok next => reach t next rest
    | .error _ => reach (t.put (place ++ [n]) .directory) (place ++ [n]) rest

/-- Where a write to a name in a directory ends up, past at most so many links. -/
def writePlace (t : Tree) : Nat → Place → Name → Place
  | 0, place, n => place ++ [n]
  | links + 1, place, n =>
    match t.node? (place ++ [n]) with
    | some (.link target) =>
      match walk t true linkLimit (start place target) target.steps.dropLast with
      | .ok next => writePlace t links next (target.steps.getLast?.getD Path.here)
      | .error _ => place ++ [n]
    | _ => place ++ [n]

def makeDirectory (t : Tree) (base : Place) (p : Path) : Tree := (t.reach base p.steps).1

/-- Puts a node where a path leads, made from the tree that has the path's directories. -/
def putAt (t : Tree) (base : Place) (p : Path) (followLast : Bool) (n : Node) : Tree :=
  match p.steps.getLast? with
  | none => t
  | some last =>
    let (t, parent) := t.reach base p.steps.dropLast
    if followLast then t.put (t.writePlace linkLimit parent last) n
    else t.put (parent ++ [last]) n

def writeFile (t : Tree) (base : Place) (p : Path) (content : List UInt8) : Tree :=
  t.putAt base p true (.file content)

def makeLink (t : Tree) (base : Place) (p : Path) (target : Path) : Tree :=
  t.putAt base p false (.link target)

def placeOf (t : Tree) (base : Place) (p : Path) : Option Place :=
  match walk t false linkLimit base p.steps with
  | .ok place => some place
  | .error _ => none

def remove (t : Tree) (base : Place) (p : Path) : Tree :=
  match t.placeOf base p with
  | some place => t.prune place
  | none => t

/-- Moves a place with everything below it to another place, in the stead of what was there. -/
def move (t : Tree) (old new : Place) : Tree where
  nodes := ((t.prune old).prune new).nodes ++
    (t.nodes.filter fun entry => old.isPrefixOf entry.1).map fun entry =>
      (new ++ entry.1.drop old.length, entry.2)
  distinct := by
    rw [List.pairwise_append, List.pairwise_map]
    refine ⟨((t.prune old).prune new).distinct, ?_, ?_⟩
    · -- what is moved begins with the old place, so the rest of it tells the places apart
      apply (t.distinct.filter _).imp_of_mem
      intro a b ha hb hab heq
      simp only [List.mem_filter, List.isPrefixOf_iff_prefix] at ha hb
      obtain ⟨x, hx⟩ := ha.2
      obtain ⟨y, hy⟩ := hb.2
      simp only [← hx, ← hy, List.drop_left, List.append_cancel_left_eq] at hab heq
      exact hab (by rw [heq])
    · intro a ha b hb heq
      obtain ⟨c, -, rfl⟩ := List.mem_map.mp hb
      simp only [prune, List.mem_filter, heq] at ha
      have hnew := List.isPrefixOf_iff_prefix.mpr
        (List.prefix_append new (c.1.drop old.length))
      simp [hnew] at ha

/-- Moves what stands at one path to another, with all that it holds. -/
def rename (t : Tree) (base : Place) (source destination : Path) : Tree :=
  match t.placeOf base source, destination.steps.getLast? with
  | some old, some last =>
    let (t, parent) := t.reach base destination.steps.dropLast
    t.move old (parent ++ [last])
  | _, _ => t

end CardTelemetry.Files.Tree
