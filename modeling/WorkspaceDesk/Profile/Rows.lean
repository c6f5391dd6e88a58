import WorkspaceDesk.Profile.Basic
import WorkspaceDesk.Table.Cell
import WorkspaceDesk.Table.Column

/-!
# The table of profiles

One row for each profile. Passwords are masked; the built-in profile shows no way to recognise a user,
and the offer to create a profile only its name.
-/

namespace WorkspaceDesk

open Table

namespace Profile

/-- The columns of the table of profiles. -/
def columns : List Column :=
  [⟨"Id", 10, by decide⟩, ⟨"Name", 20, by decide⟩, ⟨"Active", 10, by decide⟩,
    ⟨"Hostname", 15, by decide⟩, ⟨"SSH port", 10, by decide⟩, ⟨"SSH user", 10, by decide⟩,
    ⟨"SSH password", 15, by decide⟩, ⟨"SSH private key path", 20, by decide⟩]

/-- The cells about password and key: a key hides the password. -/
def secretCells (auth : Auth) : List String :=
  match auth.privateKeyPath, auth.password with
  | some path, _ => ["-", path]
  | none, some password => [maskSecret password "*", "-"]
  | none, none => ["-", "-"]

/-- The row of a profile. -/
def row (p : Profile) (activeId : String) : Row :=
  let active := boolText (p.id = activeId)
  if p.id = defaultId then [p.id, p.name, active, "-", "-", "-", "-", "-"]
  else if p.id = newId then [p.id, p.name, "", "", "", "", "", ""]
  else [p.id, p.name, active, p.hostname, toString p.port, p.auth.user] ++ secretCells p.auth

/-- The rows of profiles. -/
def rows (profiles : List Profile) (activeId : String) : List Row :=
  profiles.map (row · activeId)

/-- The index of the last profile with the active id, counted from `index` on; `found` if there is
none. -/
def activeIndexFrom (activeId : String) : (index found : Nat) → List Profile → Nat
  | _, found, [] => found
  | index, found, p :: rest =>
    activeIndexFrom activeId (index + 1) (if p.id = activeId then index else found) rest

/-- The index of the active profile; zero if there is none. -/
def activeIndex (profiles : List Profile) (activeId : String) : Nat :=
  activeIndexFrom activeId 0 0 profiles

end Profile

end WorkspaceDesk
