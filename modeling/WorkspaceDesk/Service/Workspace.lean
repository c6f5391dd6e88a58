import WorkspaceDesk.Json.Field
import WorkspaceDesk.Table.Cell
import WorkspaceDesk.Table.Column

/-!
# Workspaces

A workspace as the service lists it, with the names of its projects.
-/

namespace WorkspaceDesk

open Json Table

/-- A workspace. -/
structure Workspace where
  id : String
  name : String
  projects : List String
deriving DecidableEq, Repr, Inhabited

namespace Workspace

/-- The name of a project, which is given as such or in a field of an object. -/
def projectName? (v : Value) : Option String :=
  let name := match v with
    | .obj fields => Fields.string? fields "name"
    | .str s => some s
    | _ => none
  name.filter (· ≠ "")

/-- The workspace that fields describe. -/
def ofFields (fields : Fields) : Except FieldError Workspace :=
  (fields.parts "projects").map fun parts =>
    { id := fields.text "id", name := fields.text "name", projects := parts.filterMap projectName? }

/-- The workspace that a JSON value describes. -/
def ofJson (v : Value) : Except FieldError Workspace :=
  match v.fields with
  | .error e => .error e
  | .ok fields => ofFields fields

/-- The names of the projects as one text. -/
def projectsText (w : Workspace) : String :=
  if w.projects.isEmpty then "-" else String.intercalate ", " w.projects

/-- The columns of the table of workspaces. -/
def columns : List Column :=
  [⟨"Name", 20, Nat.succ_pos _⟩, ⟨"Id", 15, Nat.succ_pos _⟩, ⟨"Projects", 30, Nat.succ_pos _⟩]

/-- The row of a workspace. -/
def row (w : Workspace) : Row :=
  [w.name, orDash (some w.id), w.projectsText]

end Workspace

end WorkspaceDesk
