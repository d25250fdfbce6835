import CardTelemetry.Files.Edit

/-!
# Manifests of file trees

A manifest lists a tree a line at a time: `d` and a path for a directory, `f`, a path and
a content for a file, `l`, a path and a target for a link. Paths, contents and targets are
in hexadecimal digits, as they need not be text; a line of another form is passed over.
-/

namespace CardTelemetry.Files.Manifest

def hexDigit? (c : Char) : Option UInt8 :=
  if '0' ≤ c ∧ c ≤ '9' then some (UInt8.ofNat (c.toNat - '0'.toNat))
  else if 'a' ≤ c ∧ c ≤ 'f' then some (UInt8.ofNat (c.toNat - 'a'.toNat + 10))
  else if 'A' ≤ c ∧ c ≤ 'F' then some (UInt8.ofNat (c.toNat - 'A'.toNat + 10))
  else none

/-- The bytes that pairs of hexadecimal digits stand for. -/
def bytes? : List Char → Option (List UInt8)
  | [] => some []
  | [_] => none
  | a :: b :: rest =>
    match hexDigit? a, hexDigit? b, bytes? rest with
    | some high, some low, some bs => some ((16 * high + low) :: bs)
    | _, _, _ => none

def addLine (t : Tree) (line : String) : Tree :=
  match line.toList.splitOn ' ' with
  | [['d'], p] =>
    match bytes? p with
    | some p => t.makeDirectory [] p
    | none => t
  | [['f'], p, content] =>
    match bytes? p, bytes? content with
    | some p, some content => t.writeFile [] p content
    | _, _ => t
  | [['l'], p, target] =>
    match bytes? p, bytes? target with
    | some p, some target => t.makeLink [] p target
    | _, _ => t
  | _ => t

def read (lines : List String) : Tree := lines.foldl addLine .empty

end CardTelemetry.Files.Manifest
