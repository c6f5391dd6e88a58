import WorkspaceDesk.Disk.Path

/-!
# Home directories

A relative path whose first part begins with a tilde is one below a home directory: that of the user if
the part is a lone tilde, else that of the user whom the part names.
-/

namespace WorkspaceDesk

/-- The home directories that are known. -/
structure Homes where
  /-- That of the user. -/
  own : String
  /-- Those of users by name. -/
  named : List (String × String)

/-- Why a path has no place. -/
inductive HomeError where
  /-- The home directory is not known. -/
  | unknown
  /-- The name of a user holds a null character. -/
  | nullInName
deriving DecidableEq, Repr

/-- The wording of an error. -/
def HomeError.message : HomeError → String
  | .unknown => "Could not determine home directory."
  | .nullInName => "embedded null byte"

namespace Homes

/-- The text without slashes at its end; the root if nothing else is left. -/
def directoryText (s : String) : String :=
  match (s.toList.reverse.dropWhile (· = '/')).reverse with
  | [] => "/"
  | kept => String.ofList kept

/-- The home directory that a part with a tilde at its head means. -/
def directory? (homes : Homes) (part : String) : Option String :=
  if part = "~" then some (directoryText homes.own)
  else (homes.named.lookup (String.ofList part.toList.tail)).map directoryText

/-- The text begins with a tilde. -/
def beginsWithTilde (s : String) : Bool :=
  s.toList.head? = some '~'

/-- The path with the home directory in place of the tilde. A home directory that begins with a tilde
itself is none. -/
def expand (homes : Homes) (p : Path) : Except HomeError Path :=
  match p.root, p.parts with
  | "", part :: rest =>
    if beginsWithTilde part then
      if part.contains '\x00' then .error .nullInName
      else
        match homes.directory? part with
        | none => .error .unknown
        | some directory =>
          if beginsWithTilde directory then .error .unknown
          else .ok ⟨Path.rootOf directory.toList, Path.partsOf directory.toList ++ rest⟩
    else .ok p
  | _, _ => .ok p

/-- The home directory of the user. -/
def home (homes : Homes) : Except HomeError Path :=
  homes.expand (Path.ofText "~")

end Homes

end WorkspaceDesk
