import WorkspaceDesk.Disk.Basic
import WorkspaceDesk.Text.Line
import WorkspaceDesk.Text.Pattern

/-!
# Entries of the SSH configuration

An entry is a header line `Host` with the name of a host, and the lines behind it that begin with a space
or tab. The entries of a workspace are those of its projects; a host is named after profile, workspace
and project. Only whole names count, so that a workspace whose name begins like another one's keeps its
entries.
-/

namespace WorkspaceDesk.Ssh

open Text

/-- The name of the host of a project. -/
def hostName (profileId workspace project : String) : String :=
  profileId ++ "-" ++ workspace ++ "-" ++ project

/-- The hosts of a workspace; a project without a name has none. -/
def hostNames (profileId workspace : String) (projects : List String) : List String :=
  (projects.filter (· ≠ "")).map (hostName profileId workspace)

/-- The characters that indent a line. -/
def isIndent (c : Char) : Bool :=
  c = ' ' || c = '\t'

/-- What a header line begins with. -/
def headerWord : List Char := "Host ".toList

/-- The end of a line, with its line feed if it has one. -/
def lineBreak : Pattern :=
  .alt (.one (· = '\n')) .lineEnd

/-- A line that begins with a space or tab. -/
def bodyLine : Pattern :=
  .seq (.plus (.one isIndent)) (.seq (.star (.one (· ≠ '\n'))) lineBreak)

/-- The entry of any of the hosts: the name may be followed by spaces and tabs up to the end of the
line. -/
def entry (hosts : List (List Char)) : Pattern :=
  .seq .lineStart <| .seq (.literal headerWord) <| .seq (.anyOf hosts) <|
    .seq (.star (.one isIndent)) <| .seq lineBreak <| .star bodyLine

/-- The text without the entries of hosts, and the number of these. -/
def removeEntries (hosts : List String) (text : List Char) : List Char × Nat :=
  (entry (hosts.map String.toList)).remove text

/-- Why entries cannot be removed. -/
inductive Error where
  | disk (e : DiskError)
  /-- The file is not UTF-8. -/
  | undecodable (f : Utf8.Fault)
deriving DecidableEq, Repr

/-- The wording of an error. -/
def Error.message : Error → String
  | .disk e => e.message
  | .undecodable f => f.message

/-- Removes the entries of hosts from a file, which is written only if there are any. -/
def removeHosts (d : Disk) (path : Path) (hosts : List String) : Disk × Except Error Nat :=
  if hosts.isEmpty then (d, .ok 0)
  else
    match d.read path with
    | .error e => (d, if e.problem = .noEntry then .ok 0 else .error (.disk e))
    | .ok bytes =>
      match Utf8.decode bytes with
      | .error f => (d, .error (.undecodable f))
      | .ok text =>
        let (kept, n) := removeEntries hosts (unifyLineEnds text)
        if n = 0 then (d, .ok 0)
        else
          match d.write path (Utf8.encode kept) with
          | .error e => (d, .error (.disk e))
          | .ok d' => (d', .ok n)

/-- Removes the entries of a workspace. -/
def removeWorkspace (d : Disk) (path : Path) (profileId workspace : String)
    (projects : List String) : Disk × Except Error Nat :=
  removeHosts d path (hostNames profileId workspace projects)

end WorkspaceDesk.Ssh
