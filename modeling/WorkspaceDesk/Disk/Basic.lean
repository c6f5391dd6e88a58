import WorkspaceDesk.Disk.Path
import WorkspaceDesk.Text.Quoted
import WorkspaceDesk.Text.Utf8

/-!
# The disk

Files and directories by their place, a list of names from the top. Relative paths start at the top as
well. Operations refuse what a file system refuses, with its number and wording.
-/

namespace WorkspaceDesk

open Text

/-- Why the disk refuses an operation. -/
inductive DiskProblem where
  | noEntry
  | exists
  | notDirectory
  | isDirectory
  /-- A name takes more bytes than names may. -/
  | nameTooLong
  /-- The path holds a null character, so that it names nothing. -/
  | nullInPath
  /-- Any other problem that the system has, such as a lack of space or of permission. -/
  | system (number : Nat) (text : String)
deriving DecidableEq, Repr

/-- The number of a problem that has one. -/
def DiskProblem.number? : DiskProblem → Option Nat
  | .noEntry => some 2
  | .exists => some 17
  | .notDirectory => some 20
  | .isDirectory => some 21
  | .nameTooLong => some 36
  | .nullInPath => none
  | .system number _ => some number

/-- The wording of a problem. -/
def DiskProblem.message : DiskProblem → String
  | .noEntry => "No such file or directory"
  | .exists => "File exists"
  | .notDirectory => "Not a directory"
  | .isDirectory => "Is a directory"
  | .nameTooLong => "File name too long"
  | .nullInPath => "embedded null byte"
  | .system _ text => text

/-- A problem with a path, with moving it to another one, or with an open file, which has none. -/
structure DiskError where
  problem : DiskProblem
  path : Option String
  target : Option String := none
deriving DecidableEq, Repr

/-- The wording of an error: a problem with a number is shown with the paths. -/
def DiskError.message (e : DiskError) : String :=
  let paths := match e.path, e.target with
    | none, _ => ""
    | some p, none => ": " ++ quoted p
    | some p, some t => ": " ++ quoted p ++ " -> " ++ quoted t
  match e.problem.number? with
  | some n => "[Errno " ++ toString n ++ "] " ++ e.problem.message ++ paths
  | none => e.problem.message

/-- What stands at a place. -/
inductive Node where
  | directory
  | file (contents : Bytes)
deriving DecidableEq, Repr

/-- Names from the top. -/
abbrev Place := List String

/-- The files and directories below the top, in the order of their creation. -/
abbrev Disk := List (Place × Node)

namespace Disk

/-- What stands at a place; the top is a directory. -/
def node? (d : Disk) (place : Place) : Option Node :=
  if place = [] then some .directory else d.lookup place

/-- Puts a node at a place, in the stead of what is there. -/
def put (d : Disk) (place : Place) (node : Node) : Disk :=
  match d with
  | [] => [(place, node)]
  | (q, m) :: rest => if q = place then (q, node) :: rest else (q, m) :: put rest place node

/-- Removes what stands at a place. -/
def erase (d : Disk) (place : Place) : Disk :=
  d.filter (·.1 ≠ place)

/-- The most bytes that a name in a directory may take. -/
def longestName : Nat := 255

/-- The number of bytes at which the text of a path is too long. -/
def pathBound : Nat := 4096

/-- The place of a path, from a place on that is a directory. All parts but the last have to lead
through directories. -/
def walk (d : Disk) : (here : Place) → (parts : List String) → Except DiskProblem Place
  | here, [] => .ok here
  | here, part :: rest =>
    if longestName < part.utf8ByteSize then .error .nameTooLong
    else
      let next := if part = ".." then here.dropLast else here ++ [part]
      if rest.isEmpty then .ok next
      else
        match d.node? next with
        | some .directory => walk d next rest
        | some (.file _) => .error .notDirectory
        | none => .error .noEntry

/-- The place of a path. -/
def locate (d : Disk) (p : Path) : Except DiskProblem Place :=
  if p.text.contains '\x00' then .error .nullInPath
  else if pathBound ≤ p.text.utf8ByteSize then .error .nameTooLong
  else d.walk [] p.parts

/-- The path leads to a directory. -/
def isDirectory (d : Disk) (p : Path) : Bool :=
  match d.locate p with
  | .ok place => d.node? place = some .directory
  | .error _ => false

/-- The contents of a file. -/
def read (d : Disk) (p : Path) : Except DiskError Bytes :=
  match d.locate p with
  | .error problem => .error { problem, path := p.text }
  | .ok place =>
    match d.node? place with
    | some (.file contents) => .ok contents
    | some .directory => .error { problem := .isDirectory, path := p.text }
    | none => .error { problem := .noEntry, path := p.text }

/-- Replaces the contents of a file, or creates it. -/
def write (d : Disk) (p : Path) (contents : Bytes) : Except DiskError Disk :=
  match d.locate p with
  | .error problem => .error { problem, path := p.text }
  | .ok place =>
    match d.node? place with
    | some .directory => .error { problem := .isDirectory, path := p.text }
    | _ => .ok (d.put place (.file contents))

/-- Creates a directory. -/
def makeDirectory (d : Disk) (p : Path) : Except DiskProblem Disk :=
  match d.locate p with
  | .error problem => .error problem
  | .ok place => if (d.node? place).isSome then .error .exists else .ok (d.put place .directory)

/-- Creates a directory that may be there already, and nothing else for it. -/
def ensureDirectory (d : Disk) (p : Path) : Disk × Except DiskError Unit :=
  match d.makeDirectory p with
  | .ok d' => (d', .ok ())
  | .error problem =>
    if d.isDirectory p then (d, .ok ()) else (d, .error { problem, path := p.text })

/-- Creates a directory and those it is in, from the top, where they are missing. The number of parts
of the path bounds the way up. -/
def ensureDirectories (d : Disk) (p : Path) : (up : Nat) → Disk × Except DiskError Unit
  | 0 => d.ensureDirectory p
  | up + 1 =>
    match d.makeDirectory p with
    -- only a missing parent is made up for; all other problems are those of the directory itself
    | .error .noEntry =>
      match ensureDirectories d p.parent up with
      | (d', .error e) => (d', .error e)
      | (d', .ok ()) => d'.ensureDirectory p
    | _ => d.ensureDirectory p

end Disk

end WorkspaceDesk
