/-!
# Paths

A path is a root and parts. Parts that say nothing (empty ones and single dots) are left out; double
dots stay. A path that begins with exactly two slashes has a root of its own.
-/

namespace WorkspaceDesk

/-- A path to a file or directory. -/
structure Path where
  /-- Empty for a relative path, else one or two slashes. -/
  root : String
  parts : List String
deriving DecidableEq, Repr, Inhabited

namespace Path

/-- The root of a text: how many slashes it begins with, of which only two count as two. -/
def rootOf (s : List Char) : String :=
  match (s.takeWhile (· = '/')).length with
  | 0 => ""
  | 2 => "//"
  | _ => "/"

/-- The parts of a text that say something. -/
def partsOf (s : List Char) : List String :=
  ((s.splitOn '/').map String.ofList).filter fun part => part ≠ "" ∧ part ≠ "."

/-- The path that a text names. -/
def ofText (s : String) : Path :=
  ⟨rootOf s.toList, partsOf s.toList⟩

/-- The text of a path; a dot if it has neither root nor parts. -/
def text (p : Path) : String :=
  if p.root = "" ∧ p.parts = [] then "." else p.root ++ String.intercalate "/" p.parts

/-- A path below a directory. -/
def child (p : Path) (name : String) : Path :=
  { p with parts := p.parts ++ [name] }

/-- The path without its last part. -/
def parent (p : Path) : Path :=
  { p with parts := p.parts.dropLast }

/-- Parts without double dots: each takes away the part before it. -/
def resolveDots (parts : List String) : List String :=
  parts.foldl (fun kept part => if part = ".." then kept.dropLast else kept ++ [part]) []

/-- The path without double dots, judged by its text alone. -/
def normalized (p : Path) : Path :=
  { p with parts := resolveDots p.parts }

end Path

end WorkspaceDesk
