/-!
# Texts of cells

Small conventions for what a cell shows: a dash for what is missing, marks in place of a secret.
-/

namespace WorkspaceDesk.Table

/-- The text of a truth value. -/
def boolText (b : Bool) : String :=
  if b then "true" else "false"

/-- The text, or a dash when there is none. -/
def orDash (text : Option String) : String :=
  match text with
  | some t => if t = "" then "-" else t
  | none => "-"

/-- One mark for each character of the secret, so that its length can be seen. -/
def maskSecret (secret : String) (mark : String) : String :=
  String.join (List.replicate secret.length mark)

end WorkspaceDesk.Table
